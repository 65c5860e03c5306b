/-!
# Dates and times

A moment is a date, a time of day, or both, and with both there may be an offset from universal
time. Each part has a fixed number of digits; a day exists in its month, and a minute may have a
leap second.
-/

namespace RequestPipeline.Toml

/-- The number that two digits in front write, if it lies between bounds, and what follows it. -/
def twoDigits? (least most : Nat) : List Char → Option (Nat × List Char)
  | a :: b :: rest =>
    let n := (a.toNat - 0x30) * 10 + (b.toNat - 0x30)
    if a.isDigit && b.isDigit && least ≤ n && n ≤ most then some (n, rest) else none
  | _ => none

/-- The characters behind one character. -/
def behind? (c : Char) : List Char → Option (List Char)
  | [] => none
  | d :: rest => if d = c then some rest else none

/-- The number of days of a month. -/
def daysOf (year month : Nat) : Nat :=
  if month = 2 then
    if year % 4 = 0 && (year % 100 != 0 || year % 400 = 0) then 29 else 28
  else if month = 4 || month = 6 || month = 9 || month = 11 then 30
  else 31

/-- The characters behind a date. -/
def behindDate? (cs : List Char) : Option (List Char) := do
  let (century, rest) ← twoDigits? 0 99 cs
  let (year, rest) ← twoDigits? 0 99 rest
  let (month, rest) ← twoDigits? 1 12 (← behind? '-' rest)
  let (_, rest) ← twoDigits? 1 (daysOf (century * 100 + year) month) (← behind? '-' rest)
  return rest

/-- The characters behind a part of a second. -/
def behindPart : List Char → List Char
  | '.' :: c :: rest => if c.isDigit then rest.dropWhile Char.isDigit else '.' :: c :: rest
  | cs => cs

/-- The characters behind hours and minutes. -/
def behindMinutes? (cs : List Char) : Option (List Char) := do
  let (_, rest) ← twoDigits? 0 23 cs
  let (_, rest) ← twoDigits? 0 59 (← behind? ':' rest)
  return rest

/-- The characters behind a time of day. -/
def behindTime? (cs : List Char) : Option (List Char) := do
  let (_, rest) ← twoDigits? 0 60 (← behind? ':' (← behindMinutes? cs))
  return behindPart rest

/-- Whether a text is an offset from universal time, or empty. -/
def isOffset : List Char → Bool
  | [] => true
  | ['Z'] => true
  | ['z'] => true
  | c :: rest => (c == '+' || c == '-') && (behindMinutes? rest).any List.isEmpty

/-- Whether a text is a time of day with or without an offset. -/
def isClock (cs : List Char) : Bool := (behindTime? cs).any isOffset

/-- Whether a text is a date alone. -/
def isDate (cs : List Char) : Bool := (behindDate? cs).any List.isEmpty

/-- Whether a text without blanks is a date, a time of day, or a date with a time behind it. -/
def isMoment (cs : List Char) : Bool :=
  (behindTime? cs).any List.isEmpty ||
    match behindDate? cs with
    | some (c :: rest) => (c == 'T' || c == 't') && isClock rest
    | some [] => true
    | none => false

end RequestPipeline.Toml
