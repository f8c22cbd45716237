import LoadSeries.Yaml.Reader

/-!
Blanks and line breaks inside a scalar of several words, and how they are folded: one break becomes
a space, and of several the first is dropped.
-/
namespace LoadSeries.Yaml

structure Gap where
  blanks : List Char
  /-- Whether a line has ended, so that blanks no longer count. -/
  hasBreak : Bool
  firstBreak : List Char
  moreBreaks : List Char

namespace Gap

def empty : Gap := ⟨[], false, [], []⟩

def escaped : Gap := ⟨[], true, [], []⟩

def folded (x : Gap) : List Char :=
  if x.hasBreak then
    if x.firstBreak == ['\n'] then if x.moreBreaks.isEmpty then [' '] else x.moreBreaks
    else x.firstBreak ++ x.moreBreaks
  else x.blanks

def addBreak (x : Gap) (text : List Char) : Gap :=
  if x.hasBreak then { x with moreBreaks := x.moreBreaks ++ text }
  else ⟨[], true, text, []⟩

def addBlank (x : Gap) (c : Char) : Gap :=
  if x.hasBreak then x else { x with blanks := x.blanks ++ [c] }

def read : Nat → Gap → Reader → Gap × Reader
  | 0, x, r => (x, r)
  | fuel + 1, x, r =>
    match r.peek? with
    | none => (x, r)
    | some c =>
      if isSpaceOrTab c then read fuel (x.addBlank c) (r.skip 1)
      else if isBreak c then read fuel (x.addBreak r.breakText) r.skipBreak
      else (x, r)

/-- Where a gap has a tab within the indentation of a line. It may have begun on a line before. -/
def tab? (indent : Int) : Nat → Bool → Reader → Option Reader
  | 0, _, _ => none
  | fuel + 1, hasBreak, r =>
    match r.peek? with
    | none => none
    | some c =>
      if isSpaceOrTab c then
        if hasBreak && c == '\t' && (r.column : Int) < indent then some r
        else tab? indent fuel hasBreak (r.skip 1)
      else if isBreak c then tab? indent fuel true r.skipBreak
      else none

end Gap

end LoadSeries.Yaml
