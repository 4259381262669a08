import OnnxCorpus.Catalogue
import OnnxCorpus.Corpus.Constants
import OnnxCorpus.Corpus.ControlFlow
import OnnxCorpus.Corpus.Elementwise
import OnnxCorpus.Corpus.Random
import OnnxCorpus.Corpus.Shape

/-!
# The corpus

Every fixture of the corpus, in the order of registration.
-/

namespace OnnxCorpus.Corpus

/-- The fixtures with the paths that they are named by. -/
def fixtures : List (String × Built) := [
  ("elementwise::acos_test", acos),
  ("elementwise::add_bcast_test", addBroadcast),
  ("elementwise::add_scalar_test", addScalar),
  ("elementwise::argmax_test", argMax),
  ("elementwise::batchnorm_1d_test", batchNorm),
  ("elementwise::cast_test", cast),
  ("elementwise::lrn_test", localResponse),
  ("elementwise::neg_test", neg),
  ("elementwise::where_test", select),
  ("shape::averagepool_3d_test", averagePool),
  ("shape::averagepool_same_upper_test", averagePoolSame),
  ("shape::conv_relu_maxpool_test", convReluMaxPool),
  ("shape::gather_test", gather),
  ("shape::logsoftmax_nonstd_input_test", logSoftmax),
  ("shape::split_test", split),
  ("shape::variable_batch_test", variableBatch),
  ("shape::variable_batch_leq_zero_test", emptyBatch),
  ("shape::dequantizelinear_axis_test", dequantizeLinear 2),
  ("shape::dequantizelinear_neg_axis_test", dequantizeLinear (-2)),
  ("initializers::add_fp16_test", addHalf),
  ("initializers::clip_test_op11", clip),
  ("initializers::const_of_shape_int64_test", constantOfShape),
  ("initializers::constant_test", constant),
  ("initializers::initializer_test", initialized),
  ("initializers::pad_3arg_test", pad),
  ("initializers::reshape_test", reshape),
  ("initializers::resize_downsample_f_test", resize),
  ("initializers::sum_type_test", sumOfTypes),
  ("control_flow::if_then_test", ifThen),
  ("control_flow::if_literal_test", ifLiteral),
  ("control_flow::loop_default_test", loopDefault),
  ("control_flow::loop_test", loop),
  ("random::randomnormal_test", randomNormal),
  ("random::randomuniform_generated_seed_test", randomUniform),
  ("random::matmul_random_weights_test", matMulRandomWeights)]

/-- The catalogue of the corpus. -/
def catalogue : Catalogue Built := (Catalogue.registerAll {} fixtures).1

end OnnxCorpus.Corpus
