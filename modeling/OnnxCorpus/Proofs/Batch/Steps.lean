import OnnxCorpus.Batch
import Mathlib.Data.Multiset.Filter

/-!
# Steps of a batch

The pool of a batch holds the stages of its workers and those of the fixtures whose outcomes were
sent. Every event replaces at most one stage of the pool (`moves_next`), so that what is kept by
each of the moves is kept by every schedule (`follow_induction`).
-/

namespace OnnxCorpus.Batch

variable {β : Type}

/-- The place that a stage is about. -/
def Stage.place? : Stage → Option Nat
  | .idle | .stopped => none
  | .fetched place | .cleared place | .built place _ | .finished place _ => some place

/-- The stages of the workers, and of the fixtures whose outcomes were sent. -/
def State.pool (s : State β) : Multiset Stage :=
  ↑s.workers + ↑(s.sent.map fun (place, outcome) => Stage.finished place outcome)

/-! ### One stage in place of another -/

/-- A pool has one stage in place of another one. -/
def Replaces (before after : Multiset Stage) (old new : Stage) : Prop :=
  ∃ others, before = old ::ₘ others ∧ after = new ::ₘ others

section Replaces

variable {before after : Multiset Stage} {old new : Stage} {γ : Type}
  {f : Stage → Option γ} {c : γ}

theorem Replaces.mem_old (h : Replaces before after old new) : old ∈ before := by
  obtain ⟨others, rfl, -⟩ := h
  exact Multiset.mem_cons_self old others

theorem Replaces.forall {P : Stage → Prop} (h : Replaces before after old new)
    (kept : ∀ stage ∈ before, P stage) (fresh : P new) : ∀ stage ∈ after, P stage := by
  obtain ⟨others, rfl, rfl⟩ := h
  exact Multiset.forall_mem_cons.2 ⟨fresh, (Multiset.forall_mem_cons.1 kept).2⟩

theorem Replaces.filterMap_eq (h : Replaces before after old new) (same : f new = f old) :
    after.filterMap f = before.filterMap f := by
  obtain ⟨others, rfl, rfl⟩ := h
  cases value : f old with
  | none =>
    rw [Multiset.filterMap_cons_none _ _ value, Multiset.filterMap_cons_none _ _ (same.trans value)]
  | some c =>
    rw [Multiset.filterMap_cons_some _ _ _ value,
      Multiset.filterMap_cons_some _ _ _ (same.trans value)]

theorem Replaces.filterMap_cons (h : Replaces before after old new) (unvalued : f old = none)
    (valued : f new = some c) : after.filterMap f = c ::ₘ before.filterMap f := by
  obtain ⟨others, rfl, rfl⟩ := h
  rw [Multiset.filterMap_cons_none _ _ unvalued, Multiset.filterMap_cons_some _ _ _ valued]

/-- A list with another element at one place. -/
theorem exists_set {α : Type} {xs : List α} {i : Nat} {a : α} (found : xs[i]? = some a) (b : α) :
    ∃ others : Multiset α, (xs : Multiset α) = a ::ₘ others ∧
      (xs.set i b : Multiset α) = b ::ₘ others := by
  obtain ⟨inside, rfl⟩ := List.getElem?_eq_some_iff.1 found
  refine ⟨↑(xs.take i ++ xs.drop (i + 1)), ?_, ?_⟩
  · rw [Multiset.cons_coe, Multiset.coe_eq_coe]
    conv_lhs => rw [← List.take_append_drop i xs, List.drop_eq_getElem_cons inside]
    exact List.perm_middle
  · rw [Multiset.cons_coe, Multiset.coe_eq_coe, List.set_eq_take_append_cons_drop, if_pos inside]
    exact List.perm_middle

end Replaces

/-! ### Moves -/

variable (builds : β → Build) (r : Runner) (selected : List (Fixture β))

/-- What an event does to a batch. -/
inductive Moves (event : Event) (s s' : State β) : Prop
  | fetch (more : s.cursor < selected.length)
      (moved : Replaces s.pool s'.pool .idle (.fetched s.cursor))
      (cursor : s'.cursor = s.cursor + 1) (workspace : s'.workspace = s.workspace)
  | stop (past : selected.length ≤ s.cursor) (moved : Replaces s.pool s'.pool .idle .stopped)
      (cursor : s'.cursor = s.cursor + 1) (workspace : s'.workspace = s.workspace)
  | refuse (place : Nat) (flag : s.workspace.cancelled = true)
      (moved : Replaces s.pool s'.pool (.fetched place) (.finished place .cancelled))
      (cursor : s'.cursor = s.cursor) (workspace : s'.workspace = s.workspace)
  | clear (place : Nat) (flag : s.workspace.cancelled = false)
      (moved : Replaces s.pool s'.pool (.fetched place) (.cleared place))
      (cursor : s'.cursor = s.cursor) (workspace : s'.workspace = s.workspace)
  | build (place : Nat) (f : Fixture β) (found : selected[place]? = some f)
      (moved : Replaces s.pool s'.pool (.cleared place)
        (.built place (f.buildModel builds s.workspace).2))
      (cursor : s'.cursor = s.cursor)
      (workspace : s'.workspace = (f.buildModel builds s.workspace).1)
  | save (place : Nat) (f : Fixture β) (found : selected[place]? = some f)
      (built : Except (Fault FixtureError) Model)
      (moved : Replaces s.pool s'.pool (.built place built) (.finished place
        (.ofResult f.name (f.saveModel r.versions r.directory built s.workspace.tree).2)))
      (cursor : s'.cursor = s.cursor)
      (workspace : s'.workspace = { s.workspace with
        tree := (f.saveModel r.versions r.directory built s.workspace.tree).1 })
  | send (moved : s'.pool = .idle ::ₘ s.pool) (cursor : s'.cursor = s.cursor)
      (workspace : s'.workspace = s.workspace)
  | signal (cancelled : Bool) (sent : event = .signal cancelled) (moved : s'.pool = s.pool)
      (cursor : s'.cursor = s.cursor) (workspace : s'.workspace = { s.workspace with cancelled })
  | rest (same : s' = s)

variable {builds r selected} {s : State β}

theorem mem_pool_of_worker {worker : Nat} {stage : Stage}
    (found : s.workers[worker]? = some stage) : stage ∈ s.pool :=
  Multiset.mem_add.2 (.inl (Multiset.mem_coe.2 (List.mem_of_getElem? found)))

theorem replaces_set {worker : Nat} {stage : Stage} (found : s.workers[worker]? = some stage)
    (new : Stage) (s' : State β) (workers : s'.workers = s.workers.set worker new)
    (sent : s'.sent = s.sent) : Replaces s.pool s'.pool stage new := by
  obtain ⟨others, before, after⟩ := exists_set found new
  refine ⟨others + ↑(s.sent.map fun (place, outcome) => Stage.finished place outcome), ?_, ?_⟩
  · rw [State.pool, before, Multiset.cons_add]
  · rw [State.pool, workers, sent, after, Multiset.cons_add]

/-- Every event is a move, as long as the places of the stages are places of the batch. -/
theorem moves_next (event : Event)
    (places : ∀ stage ∈ s.pool, ∀ place ∈ stage.place?, place < selected.length) :
    Moves builds r selected event s (next builds r selected s event) := by
  cases event with
  | signal cancelled => exact .signal cancelled rfl rfl rfl rfl
  | step worker =>
    rw [next]
    cases found : s.workers[worker]? with
    | none => exact .rest rfl
    | some stage =>
      have moved := replaces_set found
      have inside : ∀ place ∈ stage.place?, ∃ f, selected[place]? = some f := fun place mem =>
        ⟨_, List.getElem?_eq_getElem (places stage (mem_pool_of_worker found) place mem)⟩
      cases stage with
      | idle =>
        by_cases more : s.cursor < selected.length
        · exact .fetch more (moved _ _ (by simp [advance, more]) rfl) rfl rfl
        · exact .stop (Nat.le_of_not_lt more) (moved _ _ (by simp [advance, more]) rfl) rfl rfl
      | fetched place =>
        cases flag : s.workspace.cancelled with
        | true => exact .refuse place flag (moved _ _ (by simp [advance, flag]) rfl) rfl rfl
        | false => exact .clear place flag (moved _ _ (by simp [advance, flag]) rfl) rfl rfl
      | cleared place =>
        obtain ⟨f, here⟩ := inside place rfl
        simp only [advance, here]
        exact .build place f here (moved _ _ rfl rfl) rfl rfl
      | built place built =>
        obtain ⟨f, here⟩ := inside place rfl
        simp only [advance, here]
        exact .save place f here built (moved _ _ rfl rfl) rfl rfl
      | finished place outcome =>
        -- The finished stage moves from the workers to the outcomes, and an idle one is new.
        refine .send ?_ rfl rfl
        obtain ⟨others, before, after⟩ := exists_set found .idle
        simp only [advance, State.pool, before, after, List.map_append, List.map_cons, List.map_nil,
          ← Multiset.coe_add, Multiset.coe_singleton, Multiset.cons_add]
        rw [← Multiset.add_assoc, Multiset.add_comm _ {Stage.finished place outcome},
          Multiset.singleton_add]
      | stopped =>
        have same : s.workers.set worker .stopped = s.workers := by
          obtain ⟨_, here⟩ := List.getElem?_eq_some_iff.1 found
          rw [← here, List.set_getElem_self]
        exact .rest (by simp only [advance, same])

/-- What every event of a schedule keeps holds at its end. -/
theorem follow_induction {P : State β → Prop} {schedule : List Event}
    (step : ∀ s, ∀ event ∈ schedule, P s → P (next builds r selected s event)) (start : P s) :
    P (follow builds r selected schedule s) := by
  induction schedule generalizing s with
  | nil => exact start
  | cons event rest ih =>
    obtain ⟨first, later⟩ : (∀ s, P s → P (next builds r selected s event)) ∧
        ∀ s, ∀ event ∈ rest, P s → P (next builds r selected s event) :=
      ⟨fun s => step s event List.mem_cons_self,
        fun s event member => step s event (List.mem_cons_of_mem _ member)⟩
    exact ih later (first s start)

/-! ### Outcomes in order -/

/-- The elements of a list are those at the places before its length. -/
theorem filterMap_getElem?_range {α : Type} (xs : List α) :
    (List.range xs.length).filterMap (xs[·]?) = xs := by
  induction xs with
  | nil => rfl
  | cons x rest ih =>
    rw [List.length_cons, List.range_succ_eq_map, List.filterMap_cons_some List.getElem?_cons_zero,
      List.filterMap_map]
    exact congrArg (x :: ·) ih

section

variable {outcomes : List Outcome}

theorem mem_zip_range_iff {n : Nat} (all : outcomes.length = n) {entry : Nat × Outcome} :
    entry ∈ (List.range n).zip outcomes ↔ outcomes[entry.1]? = some entry.2 := by
  rw [List.mem_iff_getElem?]
  simp only [List.getElem?_zip_eq_some]
  constructor
  · rintro ⟨i, place, outcome⟩
    rw [List.getElem?_range (by simpa using (List.getElem?_eq_some_iff.1 place).1),
      Option.some.injEq] at place
    exact place ▸ outcome
  · intro outcome
    have inside := (List.getElem?_eq_some_iff.1 outcome).1
    exact ⟨entry.1, by simp [all ▸ inside], outcome⟩

/-- The entry of a place among entries that agree with a list of outcomes. -/
theorem find?_place {entries : List (Nat × Outcome)}
    (agree : ∀ entry, entry ∈ entries ↔ outcomes[entry.1]? = some entry.2) (place : Nat) :
    entries.find? (·.1 = place) = outcomes[place]?.map (place, ·) := by
  cases here : outcomes[place]? with
  | none =>
    refine List.find?_eq_none.2 fun entry among same => ?_
    have there := (agree entry).1 among
    rw [of_decide_eq_true same, here] at there
    cases there
  | some outcome =>
    have among : (place, outcome) ∈ entries := (agree (place, outcome)).2 here
    obtain ⟨entry, first⟩ := Option.isSome_iff_exists.1
      (List.find?_isSome (p := fun entry => entry.1 = place).2 ⟨_, among, by simp⟩)
    have same : entry.1 = place := by simpa using List.find?_some first
    have there := (agree entry).1 (List.mem_of_find?_eq_some first)
    rw [same, here, Option.some.injEq] at there
    rw [first, Option.map_some, ← same, there]

/-- Outcomes that were sent in any order are put back at their places. -/
theorem collect_eq (all : outcomes.length = selected.length)
    (sent : s.sent.Perm ((List.range selected.length).zip outcomes)) :
    s.collect selected = List.zipWith (fun f outcome => (f.name, outcome)) selected outcomes := by
  have agree (entry : Nat × Outcome) :
      entry ∈ s.sent.reverse ↔ outcomes[entry.1]? = some entry.2 := by
    rw [List.mem_reverse, sent.mem_iff, mem_zip_range_iff all]
  have size : selected.length =
      (List.zipWith (fun f outcome => (f.name, outcome)) selected outcomes).length := by
    simp [all]
  rw [← filterMap_getElem?_range (List.zipWith _ selected outcomes), State.collect, ← size]
  refine List.filterMap_congr fun place _ => ?_
  rw [List.getElem?_zipWith, find?_place agree]
  cases selected[place]? <;> cases outcomes[place]? <;> rfl

end

end OnnxCorpus.Batch
