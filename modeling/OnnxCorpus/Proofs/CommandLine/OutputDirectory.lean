import OnnxCorpus.Proofs.Batch.Ownership
import OnnxCorpus.Proofs.Batch.Parts
import OnnxCorpus.Proofs.Corpus
import OnnxCorpus.Proofs.Files.Directories

/-!
# What generating leaves behind

A command that generates fixtures first makes the output directory. Where that fails nothing more is
done (`CommandLine.refused_withOutDir`), and where it succeeds, only the files of the fixtures that
are generated are different at the end, apart from the directories on the way to the output
directory (`CommandLine.leaves_saveAll`).
-/

namespace OnnxCorpus.CommandLine

open Batch

/-- From a tree with the output directory, fixtures of the corpus were generated and nothing else
was done: these fixtures have the files of their own models, those of the others read as before, and
every place that is not one of their files is as it was before the output directory was made, but
for the directories that were made for it. -/
structure Leaves (r : Runner) (t made left : Tree) (generated : List String) : Prop where
  own : ∀ name ∈ generated, ∃ f ∈ Corpus.catalogue.fixtures, f.name = name ∧
    HoldsOwn buildCorpus r left (f.path r.directory) f
  others : ∀ f ∈ Corpus.catalogue.fixtures, f.name ∉ generated →
    left.read (f.path r.directory) = made.read (f.path r.directory)
  elsewhere : ∀ p, (∀ f ∈ Corpus.catalogue.fixtures, f.name ∈ generated →
    left.locate (f.path r.directory) ≠ .ok p) → Tree.SameOrMade (t.wayTo r.directory) t left p

/-- A request could not make its output directory: it printed nothing, the files are the same, and
at most directories on the way to the output directory are new. -/
structure Refused (outDir : String) (t : Tree) (e : IoError) (left : Tree) (report : Report) :
    Prop where
  report : report = ⟨1, "", Failure.report ⟨s!"creating {outDir}", [e.message]⟩⟩
  files : ∀ p bytes, left.entry? p = some (.file bytes) ↔ t.entry? p = some (.file bytes)
  places : ∀ p, Tree.SameOrMade (t.wayTo outDir) t left p

variable {arguments : List String} {log outDir : String} {command : Command} {t made left : Tree}
  {r : Runner} {next : Workspace Built → Run} {fixtures : List (Fixture Built)}

/-! ### Up to the output directory -/

/-- Arguments that ask for a command are answered with what it does, the log filter being fine. -/
theorem run_eq (asked : Request.ofArguments arguments = .run ⟨outDir, log, command⟩)
    (logged : checkLogFilter log = .ok ()) (t : Tree) :
    run arguments t = ((command.run outDir t).tree, (command.run outDir t).toReport) := by
  simp only [run, asked, Invocation.run, logged]

theorem withOutDir_eq (created : t.createDirectories outDir = (made, .ok ())) :
    withOutDir t outDir next = next { tree := made } := by
  rw [withOutDir, created]

theorem refused_withOutDir {e : IoError} (refused : t.createDirectories outDir = (made, .error e)) :
    Refused outDir t e (withOutDir t outDir next).tree (withOutDir t outDir next).toReport := by
  have makes := Tree.makes_createDirectories t outDir
  rw [refused] at makes
  rw [withOutDir, refused]
  exact ⟨rfl, fun p _ => (makes.places p).entry?_eq_file_iff, makes.places⟩

/-! ### In the output directory -/

/-- Where all there was are saves of fixtures of the corpus, none of which failed, these fixtures
were generated and nothing else was done. -/
theorem leaves_saveAll (created : t.createDirectories r.directory = (made, .ok ()))
    (among : ∀ f ∈ fixtures, f ∈ Corpus.catalogue.fixtures)
    (saved : ∀ f ∈ fixtures, ∃ place, destination? buildCorpus r made f = some place)
    (alike : Tree.Alike left (saveAll buildCorpus r fixtures made)) :
    Leaves r t made left (fixtures.map (·.name)) := by
  have makes := Tree.makes_createDirectories t r.directory
  rw [created] at makes
  have apart : Apart buildCorpus r made fixtures :=
    .of_registered Corpus.registered_catalogue (fun f member => Corpus.plain_of_mem member) among
  have same : Tree.SameDirectories made left :=
    (sameDirectories_saveAll fixtures made).trans (.of_alike alike.symm)
  refine ⟨fun name listed => ?_, fun f member new => ?_, fun p elsewhere => ?_⟩
  · obtain ⟨f, member, rfl⟩ := List.mem_map.1 listed
    obtain ⟨place, reached⟩ := saved f member
    obtain ⟨model, bytes, built, encoded, read⟩ := holdsOwn_saveAll apart member reached
    exact ⟨f, among f member, rfl, model, bytes, built, encoded, alike.read_eq.trans read⟩
  · rw [alike.read_eq]
    refine read_saveAll (Corpus.plain_of_mem member) fun g member' => ?_
    exact ⟨Corpus.plain_of_mem (among g member'), fun named =>
      new (List.mem_map.2 ⟨g, member', named.symm⟩)⟩
  · have kept : left.entry? p = made.entry? p := by
      rw [alike.entries]
      refine entry?_saveAll_of_elsewhere fun f member reached => ?_
      obtain ⟨bytes, delivered⟩ := destination?_eq_some_iff.1 reached
      obtain ⟨-, -, -, targeted⟩ := deliveryIn_eq_ok_iff.1 delivered
      have located := (Tree.target_eq_ok_iff.1 (same.target_eq_ok_iff.1 targeted)).2.1
      exact elsewhere f (among f member) (List.mem_map_of_mem member)
        (Tree.locate_of_locateFile located)
    unfold Tree.SameOrMade
    rw [kept]
    exact makes.places p

end OnnxCorpus.CommandLine
