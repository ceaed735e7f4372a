import DeclIndex.Text.Blank
import DeclIndex.Text.Case

/-!
# Extensions

File extensions are compared in lower case and with a leading dot.

## Main definitions

* `Extension.normalize` — the form in which extensions are compared.
-/

namespace DeclIndex.Extension

/-- The extension trimmed, in lower case and with a leading dot; the empty one stays empty. -/
def normalize (e : Text) : Text :=
  match Text.lower (Text.trim e) with
  | [] => []
  | c :: rest => if c = '.' then c :: rest else '.' :: c :: rest

end DeclIndex.Extension
