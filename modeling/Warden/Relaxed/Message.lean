import Warden.Relaxed.Grammar

/-!
# Syntax error reports

A syntax error of the relaxed syntax is shown with its place and the line it is on:

```
 --> 1:7
  |
1 | {auth:}
  |       ^---
  |
  = expected array, boolean, null, number, object, or string
```

Lines are counted at line feeds (a carriage return and line feed count once, a lone carriage
return does not break a line) and columns in characters. The line is shown without its line
break, unless the error is on the line break itself, which is then drawn as `␊` or `␍`. The
marker keeps the tabs of the line so that it stays under the error.
-/

namespace Warden

namespace Relaxed

/-- The line and column of a position. -/
def lineCol (input : Array Char) (pos : Nat) : Nat × Nat :=
  let rec go : List Char → Nat → Nat → Nat × Nat
    | [], l, c => (l, c)
    | '\r' :: '\n' :: rest, l, _ => go rest (l + 1) 1
    | '\n' :: rest, l, _ => go rest (l + 1) 1
    | _ :: rest, l, c => go rest l (c + 1)
  go (input.toList.take pos) 1 1

/-- The text of the line that holds a position, up to and including its line feed. -/
def lineOf (input : Array Char) (pos : Nat) : List Char :=
  let cs := input.toList
  let before := cs.take pos
  let start := match before.reverse.findIdx? (· = '\n') with
    | some k => pos - k
    | none => 0
  let after := cs.drop pos
  let stop := match after.findIdx? (· = '\n') with
    | some k => pos + k + 1
    | none => cs.length
  (cs.take stop).drop start

/-- Lists names as a sentence: `a`, `a or b`, `a, b, or c`. -/
def enumerate : List String → String
  | [] => ""
  | [a] => a
  | [a, b] => a ++ " or " ++ b
  | names => ", ".intercalate (names.take (names.length - 1)) ++ ", or " ++ names.getLastD ""

/-- The message of a syntax error. -/
def SyntaxError.message (e : SyntaxError) : String :=
  if e.expected.isEmpty then "unknown parsing error"
  else "expected " ++ enumerate (e.expected.map Rule.name)

/-- The report of a syntax error in a text. -/
def SyntaxError.render (e : SyntaxError) (input : Array Char) : String :=
  let (line, col) := lineCol input e.pos
  let raw := lineOf input e.pos
  let onBreak := match input[e.pos]? with
    | some c => c = '\n' || c = '\r'
    | none => false
  let shown := if onBreak then raw.flatMap (fun c => if c = '\r' then ['␍'] else if c = '\n' then ['␊'] else [c])
    else raw.filter (fun c => c ≠ '\r' && c ≠ '\n')
  let marker := String.ofList ((shown.take (col - 1)).map fun c => if c = '\t' then '\t' else ' ') ++ "^---"
  let num := toString line
  let s := String.ofList (List.replicate num.length ' ')
  s ++ "--> " ++ num ++ ":" ++ toString col ++ "\n" ++ s ++ " |\n" ++ num ++ " | " ++ String.ofList shown
    ++ "\n" ++ s ++ " | " ++ marker ++ "\n" ++ s ++ " |\n" ++ s ++ " = " ++ e.message

end Relaxed

end Warden
