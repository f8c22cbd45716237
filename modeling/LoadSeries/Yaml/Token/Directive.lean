import LoadSeries.Text.Digits
import LoadSeries.Yaml.Token.Basic
import LoadSeries.Yaml.Token.Tag

/-! Directives: lines before a document that begin with a percent sign. -/
namespace LoadSeries.Yaml.Directive

open Text

def maxDigits : Nat := 9

def number (start : Mark) (r : Reader) : Except SyntaxFault (Nat × Reader) :=
  let (body, rest) := r.takeWhile isDigit
  if body.isEmpty then rest.blocked .versionDirective start .noVersion
  else if maxDigits < body.length then
    (r.skip maxDigits).blocked .versionDirective start .longVersion
  else .ok (digitsValue body, rest)

def version (start : Mark) (r : Reader) : Except SyntaxFault (Token × Reader) := do
  let (major, r) ← number start r.skipBlanks
  if r.isAt '.' then
    let (minor, r) ← number start (r.skip 1)
    return (.versionDirective major minor, r)
  else r.blocked .versionDirective start .noVersionPoint

def tag (start : Mark) (r : Reader) : Except SyntaxFault (Token × Reader) := do
  let (handle, r) ← TagText.handle .handleStart start r.skipBlanks
  if !(handle == ['!'] || TagText.isHandle handle) then r.blocked .handleEnd start .noMark
  else if !r.atSpaceOrTab then r.blocked .tagDirective start .noBlank
  else
    let (expansion, r) ← TagText.uriBody .expansion start true r.skipBlanks
    if r.isGapAhead 0 then return (.tagDirective handle expansion, r)
    else r.blocked .tagDirective start .noGap

def scan (r : Reader) : Except SyntaxFault (Token × Reader) := do
  let start := r.mark
  let (name, r) := (r.skip 1).takeWhile isNameChar
  if name.isEmpty then r.blocked .directive start .unnamedDirective
  else if !r.isGapAhead 0 then r.blocked .directive start .directiveCharacter
  else
    let (token, r) ←
      if name == "YAML".toList then version start r
      else if name == "TAG".toList then tag start r
      else r.blocked .directive start .unknownDirective
    return (token, ← r.skipLineEnd .directive start)

end LoadSeries.Yaml.Directive
