import SelfBuild.Proofs.CommandLine.Exit
import SelfBuild.Proofs.Delivery.Fresh
import SelfBuild.Proofs.Wizard.Status

/-!
# What becomes of a draft

With a key, a reply that brings a text is a draft: the text without fences.  The wizard shows it in place of
the source that was posted, and the command line writes it where it was told to.  When the request failed,
a program stands in for the draft, so that there is something to show.  A reply that is nested too deeply
yields nothing, and nothing is shown or written.
-/

namespace SelfBuild

namespace Drafting

variable {settings : Settings}

/-! ## In the wizard -/

section Wizard

variable {form : Wizard.Form} {host : Wizard.Host}

end Wizard

/-! ## On the command line -/

section CommandLine

variable {request : CommandLine.DraftRequest} {host : CommandLine.Host} {out : String}

end CommandLine

/-! ## Both -/

end Drafting

end SelfBuild
