import ChatRelay.Yaml.Piece

/-!
# Breaking long lines

Text that is written in a line of its own or behind something is broken where it would go beyond the
80th column: at a single space, which the break then stands for, or in double quotes anywhere, with
a backslash at the end of the line. Words that are too long stay whole outside of quotes.
-/

namespace ChatRelay.Yaml

open Text (unit)

/-- The width of a line. -/
def lineWidth : Nat := 80

/-- The least width that is left for text, however deep it is indented. -/
def leastWidth : Nat := 20

/-- A place where a line is broken; an escaped one is within a word. -/
structure LineBreak where
  place : Nat
  escaped : Bool
  deriving DecidableEq, Repr

/-- The search for breaks: the unit before, the last space at which the line can be broken, the end
of the line, where the last escape begins and the place behind it, and the breaks found, the last
first. -/
structure BreakSearch where
  previous : Option CodeUnit := none
  split : Option Nat := none
  stop : Nat
  escapeStart : Nat := 0
  escapeStop : Nat := 0
  breaks : List LineBreak := []

/-- Whether a unit is there and no white space. -/
def isWordUnit (u : Option CodeUnit) : Bool :=
  match u with
  | some u => u != 32 && u != lineFeed && u != 9
  | none => false

/-- How many units follow the backslash of an escape. -/
def escapeTail (u : Option CodeUnit) : Nat :=
  if u = some (unit 'x') then 3 else if u = some (unit 'u') then 5
  else if u = some (unit 'U') then 9 else 1

/-- The first place from some place on that has no blank right before it. -/
def behindBlanks (text : Array CodeUnit) (previous : Option CodeUnit) (i : Nat) : Nat :=
  if h : i < text.size then
    if previous = some 32 ∨ previous = some 9 then behindBlanks text (some text[i]) (i + 1) else i
  else i
termination_by text.size - i

/-- The breaks of a text from some place on; none if escapes leave no place for one. `step` is the
width of a line with its break. -/
def breaksFrom (text : Array CodeUnit) (quoted : Bool) (indent step : Nat) :
    Nat → Nat → BreakSearch → Option (List LineBreak)
  | 0, _, s => some s.breaks.reverse
  | fuel + 1, i, s =>
    match text[i]? with
    | none => some s.breaks.reverse
    | some u =>
      let isEscape := quoted && u == unit '\\'
      let next := text[i + 1]?
      let (i, s) :=
        if isEscape then
          let stop := i + escapeTail next
          (stop, { s with escapeStart := i, escapeStop := stop + 1 })
        else (i, s)
      if u = lineFeed then
        breaksFrom text quoted indent step fuel (i + 1)
          { s with previous := some u, split := none, stop := i + indent + step }
      else
        let s :=
          if u = 32 && isWordUnit s.previous && isWordUnit next then { s with split := some i } else s
        if i < s.stop then
          breaksFrom text quoted indent step fuel (i + 1) { s with previous := some u }
        else
          match s.split with
          | some place =>
            breaksFrom text quoted indent step fuel (i + 1)
              { s with
                previous := some u
                split := none
                stop := place + step
                breaks := ⟨place, false⟩ :: s.breaks }
          | none =>
            if quoted then
              let atBlank := s.previous = some 32 || s.previous = some 9
              let i' :=
                if isEscape then (if atBlank then i + 1 else i) else behindBlanks text s.previous i
              let place := if s.escapeStop < i' then i' - 2 else s.escapeStart - 1
              if s.breaks.any fun b => b.escaped && b.place = place then none
              else
                breaksFrom text quoted indent step fuel (i' + 1)
                  { s with
                    previous := if i' = i then some u else text[i']?
                    stop := place + step
                    breaks := ⟨place, true⟩ :: s.breaks }
            else breaksFrom text quoted indent step fuel (i + 1) { s with previous := some u }

/-- The pieces of a text between breaks, each behind the indentation of its line. -/
def brokenAt (text : Array CodeUnit) (indent : Nat) : List LineBreak → Text
  | [] => []
  | b :: bs =>
    let stop := (bs.head?.map (·.place)).getD text.size
    let ending : Text := if b.escaped then (text[b.place]?).toList ++ "\\" else []
    let start := if b.place = 0 && !b.escaped then 0 else b.place + 1
    ending ++ lineFeed :: List.replicate indent 32 ++ (text.extract start stop).toList ++
      brokenAt text indent bs

/-- A text with its long lines broken. `used` is how much of the first line is taken. -/
def broken (quoted : Bool) (indent : Nat) (used : Option Nat) (t : Text) : Text :=
  let step := max (1 + leastWidth) (1 + lineWidth - indent)
  if t.length ≤ step then t
  else
    let text := t.toArray
    let isFull := (used.map fun n => decide (lineWidth - leastWidth < n)).getD false
    let stop := if isFull then lineWidth - indent else lineWidth - used.getD indent
    let start : List LineBreak := if isFull then [⟨0, false⟩] else []
    match breaksFrom text quoted indent step (t.length + 1) 0 { stop := stop, breaks := start } with
    | none => t
    | some [] => t
    | some (b :: bs) => (text.extract 0 b.place).toList ++ brokenAt text indent (b :: bs)

end ChatRelay.Yaml
