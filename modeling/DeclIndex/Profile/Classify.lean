import DeclIndex.Profile.Basic
import DeclIndex.Text.Lines

/-!
# Classification of lines

A text is never parsed. Each line is trimmed, stripped of attributes, rejected if it opens with a
control word, and then tried against the rules in order: the first rule that applies says what the
line declares, if anything.

Around the line only little is read: the comment above or below it, the attribute lines between,
and up to `maxLookahead` lines in search of a confirmation.

Whether a function is a method is a guess by indentation unless the syntax names a receiver.

## Main definitions

* `Site` — a line with the lines around it.
* `Profile.stripAttributes`, `Profile.isControlFlow` — the two steps before the rules.
* `Profile.classify?` — what a line declares.
* `Profile.outline` — the outline of a text.
-/

namespace DeclIndex

/-- A line with the lines above it, nearest first, and those below it. -/
structure Site where
  above : List Text
  line : Text
  below : List Text
  deriving DecidableEq, Repr

namespace Site

/-- The sites of the lines `below`, which follow the lines `above`. -/
def follow (above : List Text) : List Text → List Site
  | [] => []
  | line :: below => ⟨above, line, below⟩ :: follow (line :: above) below

/-- The site of the line with a given index. -/
def ofIndex? (lines : List Text) (index : Nat) : Option Site :=
  (follow [] lines)[index]?

end Site

namespace Profile

/-! ### Before the rules -/

/-- Strips up to `n` attributes, and the white space after each, from the start of a line. -/
def stripAttributesBy (one : Pattern) : Nat → Text → Text
  | 0, line => line
  | n + 1, line =>
    match one.matchStart? line with
    | none => line
    | some found =>
      if line.isEmpty || found.span.stop = 0 then line
      else stripAttributesBy one n (Text.trimStart (line.drop found.span.stop))

/-- A line without the attributes that it begins with. -/
def stripAttributes (p : Profile) (line : Text) : Text :=
  match p.attributes with
  | none => line
  | some one => stripAttributesBy one line.length line

/-- Characters that are passed over in search of the first word of a line. -/
def isCloser (c : Char) : Bool :=
  Text.isBlank c || "\x7b\x7d()[];,".toList.contains c

/-- The word that a line opens with, after closing brackets and separators. -/
def firstWord? (line : Text) : Option Text :=
  match line.dropWhile isCloser with
  | [] => none
  | c :: rest => if Text.isAsciiLetter c then some (c :: rest.takeWhile Text.isWord) else none

/-- Whether a line opens with a control word and holds no declaration marker. -/
def isControlFlow (p : Profile) (line : Text) : Bool :=
  (firstWord? line).any p.isControlWord && !p.hasMarker line

/-- Whether a trimmed line is blank or a comment. -/
def isNoCode (p : Profile) (line : Text) : Bool :=
  line.isEmpty || Comment.isComment p.commentMarkers line

/-- The code of a line, if there is any: trimmed, no comment, without attributes, and no control
flow. -/
def code? (p : Profile) (line : Text) : Option Text :=
  let line := Text.trim line
  if p.isNoCode line then none
  else
    let line := p.stripAttributes line
    if line.isEmpty || p.isControlFlow line then none else some line

/-! ### Documentation -/

/-- Whether a line holds attributes and nothing else. -/
def isAttributeLine (p : Profile) (line : Text) : Bool :=
  let line := Text.trim line
  !p.isNoCode line && (p.stripAttributes line).isEmpty

/-- The lines above a declaration and the attributes that belong to it, nearest first. -/
def aboveAttributes (p : Profile) (above : List Text) : List Text :=
  if p.attributes.isNone then above else above.dropWhile p.isAttributeLine

/-- The comment that belongs to a declaration of a kind. -/
def documentation (p : Profile) (site : Site) (k : Kind) : Text :=
  let depth := (p.docDepth k).toNat
  match p.docPlacement with
  | .before => Comment.above p.docMarkers depth (p.aboveAttributes site.above)
  | .after =>
    let doc := Comment.below p.docMarkers depth site.below
    if doc.isEmpty then Comment.above p.commentMarkers depth (p.aboveAttributes site.above)
    else doc

/-! ### What a match declares -/

/-- The trimmed text of a group, empty if there is none. -/
def groupText (pattern : Pattern) (found : Pattern.Found) (line name : Text) : Text :=
  Text.trim ((pattern.textOf? found line name).getD [])

/-- The confirmation of a match: in the rest of its line or, if that is blank, in the first of the
lines below that is code. It comes with the text it was found in. -/
def confirmation? (p : Profile) (confirm : Pattern) (lookahead : Nat) (tail : Text)
    (below : List Text) : Option (Pattern.Found × Text) :=
  let place :=
    if (Text.trim tail).isEmpty then
      ((below.take lookahead).map Text.trim).find? fun line => !p.isNoCode line
    else some tail
  place.bind fun t => (confirm.find? t).map fun found => (found, t)

/-- The kind of a declaration: a function is a method if it has a receiver or, where indentation
counts, if its line is indented. -/
def kindOf (p : Profile) (k : Kind) (line receiver : Text) : Kind :=
  if k = .function &&
      (!receiver.isEmpty || (p.methodDetection = .indent && Text.isIndented line)) then .method
  else k

/-- Who may use a declaration, by the words before it, by its name, or by default. -/
def visibility (p : Profile) (name before : Text) : Visibility :=
  match p.visibilityWords.find? fun w =>
      (Pattern.ofWords p.fold [w.1]).any fun m => m.occursIn before with
  | some w => w.2
  | none =>
    match p.nameRule with
    | none => p.defaultVisibility
    | some rule =>
      if rule name = .unspecified then p.defaultVisibility else rule name

/-- The text before the introducing word of a declaration or, without one, before its name. -/
def textBefore (pattern : Pattern) (found : Pattern.Found) (line : Text) : Text :=
  match pattern.spanOf? found "keyword", pattern.spanOf? found "name" with
  | some span, _ => line.take span.start
  | none, some span => line.take span.start
  | none, none => []

/-- What a match of a rule declares. Nothing if no name was captured, if the name is a statement
word without an introducing word, or if the confirmation is missing. -/
def elementOf? (p : Profile) (rule : Rule) (found : Pattern.Found) (site : Site) (line : Text) :
    Option Element :=
  let name := groupText rule.pattern found line "name"
  let keyword := groupText rule.pattern found line "keyword"
  let parent := groupText rule.pattern found line "parent"
  if name.isEmpty || (keyword.isEmpty && p.isStatementWord name) then none
  else
    let build (keyword parent : Text) : Element :=
      let kind := p.kindOf rule.kind site.line (groupText rule.pattern found line "receiver")
      { kind := kind
        name := name
        visibility := p.visibility name (textBefore rule.pattern found line)
        parent := parent
        documentation := p.documentation site kind
        line := site.above.length + 1
        keyword := p.spelling keyword }
    match rule.confirm with
    | none => some (build keyword parent)
    | some confirm =>
      (p.confirmation? confirm rule.lookahead (line.drop found.span.stop) site.below).map
        fun (found, t) =>
          let confirmed := groupText confirm found t "keyword"
          let inherited := groupText confirm found t "parent"
          build (if confirmed.isEmpty then keyword else confirmed)
            (if inherited.isEmpty then parent else inherited)

/-! ### The rules -/

/-- What the first rule that applies makes of a line. A gate that lets a line in claims it: if the
pattern then finds nothing, no further rule is tried. -/
def applyRules (p : Profile) (site : Site) (line : Text) : List Rule → Option Element
  | [] => none
  | rule :: rules =>
    if (rule.topLevel && Text.isIndented site.line) || !rule.applies line then
      applyRules p site line rules
    else
      match rule.pattern.find? line with
      | some found => p.elementOf? rule found site line
      | none => if rule.gate.isSome then none else applyRules p site line rules

/-- What a line declares. -/
def classify? (p : Profile) (site : Site) : Option Element :=
  (p.code? site.line).bind fun line => p.applyRules site line p.rules

/-- What the lines of a text declare. -/
def elements (p : Profile) (lines : List Text) : List Element :=
  (Site.follow [] lines).filterMap p.classify?

/-- The outline of a text. -/
def outline (p : Profile) (path content : Text) : Outline where
  path := path
  language := p.name
  elements := p.elements (Text.splitLines content)

end Profile

end DeclIndex
