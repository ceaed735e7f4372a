import DeclIndex.Language.C
import DeclIndex.Language.CSharp
import DeclIndex.Language.Cpp
import DeclIndex.Language.Crystal
import DeclIndex.Language.D
import DeclIndex.Language.Dart
import DeclIndex.Language.Go
import DeclIndex.Language.Java
import DeclIndex.Language.JavaScript
import DeclIndex.Language.Kotlin
import DeclIndex.Language.Lua
import DeclIndex.Language.Pascal
import DeclIndex.Language.Php
import DeclIndex.Language.Python
import DeclIndex.Language.Rust
import DeclIndex.Language.Scala
import DeclIndex.Language.Swift
import DeclIndex.Language.TypeScript
import DeclIndex.Language.Zig

/-!
# The built-in languages

## Main definitions

* `Language.builtin` — the profiles of the built-in languages, in the order in which they are
  registered.
-/

namespace DeclIndex.Language

/-- The profiles of the built-in languages. -/
def builtin : List Profile :=
  [c, cpp, csharp, java, kotlin, scala, javascript, typescript, go, rust, swift, dart, php, ruby,
    crystal, lua, d, zig, pascal, python]

end DeclIndex.Language
