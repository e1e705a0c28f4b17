import Adocify.Proofs.ConversionStages
import Adocify.Proofs.EncodedTexts
import Adocify.Proofs.FailedSteps
import Adocify.Proofs.RenderCourse
import Adocify.Proofs.RenderTrees
import Adocify.Proofs.TextEndings

/-! Where a text arrives. What a conversion makes of its source does not depend on the destination, and a
destination that does not decline the text holds all of it, as characters or as bytes. -/

namespace Adocify

variable {text : Text} {files : FileTree}

def Conversion.delivery (conversion : Conversion) : Delivery :=
  ⟨conversion.outcome, conversion.destination, conversion.files, conversion.log⟩

end Adocify
