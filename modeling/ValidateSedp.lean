import ValidateSedp.Spec.PcapCorrect
import ValidateSedp.Spec.FrameCorrect
import ValidateSedp.Spec.SubmessageCorrect
import ValidateSedp.Spec.ParameterListCorrect
import ValidateSedp.Spec.ValidateCorrect
import ValidateSedp.Spec.AnalyzeCorrect
import ValidateSedp.Spec.AnalyzeComplete
import ValidateSedp.Spec.AnalyzeSound
import ValidateSedp.Spec.AnalyzePacketwise
import ValidateSedp.Spec.Truncation
