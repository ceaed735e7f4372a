import DeclIndex.Path

/-!
# Exclusions

Patterns for files and directories that are left out. A pattern that begins with a star matches the
paths that end with the rest of it; any other pattern matches the paths that it is a part of. Names
that begin with a dot are hidden and left out as well.

## Main definitions

* `Exclude.excludes` — whether some pattern matches a path.
* `Exclude.isHidden` — whether a name is hidden.
* `Exclude.usual` — the patterns that hold unless others are given.
-/

namespace DeclIndex.Exclude

/-- Whether a pattern matches a path. -/
def isMatch (path : Path) (pattern : Text) : Bool :=
  match pattern with
  | '*' :: ending => path.text.endsWith ending
  | pattern => path.parts.elem pattern

/-- Whether some pattern matches a path. -/
def excludes (patterns : List Text) (path : Path) : Bool :=
  patterns.any (isMatch path)

/-- Whether a name begins with a dot; the names of this directory and of its parent are not
hidden. -/
def isHidden (name : Text) : Bool :=
  name.startsWith ['.'] && name != ['.'] && name != Path.parentName

/-- Whether the path made of some names is kept: its last name is not hidden and no pattern matches
the path. -/
def keeps (patterns : List Text) (names : List Text) : Bool :=
  !isHidden (names.getLast?.getD []) && !excludes patterns { names := names }

/-- The patterns for what other tools produce and keep for themselves. -/
def usual : List Text :=
  ["node_modules".toList, "__pycache__".toList, ".git".toList, ".hg".toList, ".svn".toList,
    ".venv".toList, "venv".toList, "dist".toList, "build".toList, "target".toList, ".next".toList,
    "coverage".toList, ".pytest_cache".toList, ".mypy_cache".toList, ".gradle".toList,
    ".dart_tool".toList, "zig-cache".toList, "zig-out".toList, "*.pyc".toList, "*.pyo".toList,
    "*.min.js".toList, ".DS_Store".toList, "*.log".toList, "*.egg-info".toList]

end DeclIndex.Exclude
