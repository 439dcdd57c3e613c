import BootTheme.Number.Reading
import BootTheme.Toml.Reader

/-!
# Dates and times of TOML

A date, a time, or both, these with or without the distance from universal time.
They are kept as text in one form: a capital letter between date and time, places
of a second without zeros at the end, and no negative distance of nothing.
-/

namespace BootTheme

namespace TomlReader

/-- So many digits, as a number within bounds. -/
def field (count least greatest : Nat) : TomlReader Nat := do
  let start ← get
  let value := digitsValue (← exactly count Char.isDigit)
  checked start <| if least ≤ value ∧ value ≤ greatest then .ok value else .error .outOfRange

/-- The days of a month. -/
def monthDays (year month : Nat) : Nat :=
  if month = 2 then
    if year % 4 = 0 ∧ (year % 100 ≠ 0 ∨ year % 400 = 0) then 29 else 28
  else if month = 4 ∨ month = 6 ∨ month = 9 ∨ month = 11 then 30
  else 31

/-- A date. What follows the year and its hyphen must go on as a date. -/
def date : TomlReader (List Char) := do
  let start ← get
  let year ← field 4 0 9999
  char '-'
  final do
    let month ← field 2 1 12
    char '-'
    let place ← get
    let day ← field 2 1 31
    checked place <|
      if day ≤ monthDays year month then .ok (start.take 10) else .error .outOfRange

/-- The places of a second behind their point: nine at most, no zeros at the end. -/
def secondPlaces (digits : List Char) : List Char :=
  match ((digits.take 9).reverse.dropWhile (· == '0')).reverse with
  | [] => []
  | places => '.' :: places

/-- A time of day. What follows the hour and its colon must go on as a time. -/
def time : TomlReader (List Char) := do
  let start ← get
  let _ ← field 2 0 23
  char ':'
  final do
    let _ ← field 2 0 59
    char ':'
    let _ ← field 2 0 60
    let digits ← optional do
      char '.'
      span Char.isDigit
    return start.take 8 ++ secondPlaces (digits.getD [])

/-- The distance from universal time. What follows a sign must go on as a distance. -/
def offset : TomlReader (List Char) :=
  labelled .offset <| either
    (do
      let _ ← one fun char => char == 'Z' || char == 'z'
      return ['Z'])
    (do
      let mark ← one fun char => char == '+' || char == '-'
      let start ← get
      final do
        let hours ← field 2 0 23
        char ':'
        let minutes ← field 2 0 59
        return (if hours = 0 ∧ minutes = 0 then '+' else mark) :: start.take 5)

/-- A time behind a date. -/
def timeOfDate : TomlReader (List Char) := do
  let _ ← one fun char => char == 'T' || char == 't' || char == ' '
  let clock ← time
  let zone ← optional offset
  return 'T' :: clock ++ zone.getD []

/-- A date, a time, or both. -/
def datetime : TomlReader Toml :=
  either
    (labelled .datetime do
      let day ← date
      let clock ← optional timeOfDate
      return .datetime (String.ofList (day ++ clock.getD [])))
    (labelled .time do return .datetime (String.ofList (← time)))

end TomlReader

end BootTheme
