import Mathlib.Data.Nat.Notation
import Mathlib.Data.List.Basic

/-!
# The log lines of the servers

`Logger::init` gives spdlog the pattern `%Y-%m-%d %H:%M:%S.%e | %* | %v`, where `%*` is
the level in capitals in seven columns. A call prints its text verbatim after that and
ends it with a line break; what its text has of line breaks makes further lines.
-/

namespace SosBackend

namespace Logging

/-!
## Time
-/

def isLeapYear (year : ℕ) : Bool :=
  year % 4 == 0 && (year % 100 != 0 || year % 400 == 0)

def daysOfMonth (year month : ℕ) : ℕ :=
  if month = 2 then if isLeapYear year then 29 else 28
  else if month = 4 ∨ month = 6 ∨ month = 9 ∨ month = 11 then 30 else 31

/-- A date and a time of day to the millisecond, with room for a leap second. -/
structure Timestamp where
  year : ℕ
  month : ℕ
  day : ℕ
  hour : ℕ
  minute : ℕ
  second : ℕ
  milli : ℕ
  date : year < 10000 ∧ 1 ≤ month ∧ month ≤ 12 ∧ 1 ≤ day ∧ day ≤ daysOfMonth year month
  time : hour < 24 ∧ minute < 60 ∧ second ≤ 60 ∧ milli < 1000
deriving DecidableEq

/-- What the clock of a server can show: it starts in 1970 and has no leap seconds. -/
structure SystemTime extends Timestamp where
  epoch : 1970 ≤ year
  unix : second < 60

/-- The epoch. -/
instance : Inhabited SystemTime :=
  ⟨⟨⟨1970, 1, 1, 0, 0, 0, 0, by decide, by decide⟩, by decide, by decide⟩⟩

/-- A number in so many digits, with leading zeros. -/
def padded : ℕ → ℕ → List Char
  | 0, _ => []
  | w + 1, n => padded w (n / 10) ++ [Nat.digitChar (n % 10)]

/-- `%Y-%m-%d %H:%M:%S.%e`; the year has four digits. -/
def Timestamp.format (t : Timestamp) : List Char :=
  padded 4 t.year ++ '-' :: (padded 2 t.month ++ '-' :: (padded 2 t.day ++ ' ' ::
    (padded 2 t.hour ++ ':' :: (padded 2 t.minute ++ ':' :: (padded 2 t.second ++ '.' ::
      padded 3 t.milli)))))

theorem length_padded (w n : ℕ) : (padded w n).length = w := by
  induction w generalizing n with
  | zero => rfl
  | succ w ih => rw [padded, List.length_append, ih, List.length_singleton]

theorem isDigit_padded {w n : ℕ} {c : Char} (h : c ∈ padded w n) :
    c.isDigit = true ∧ c.toNat < 128 := by
  induction w generalizing n with
  | zero => exact absurd h List.not_mem_nil
  | succ w ih =>
      rcases List.mem_append.1 h with h | h
      · exact ih h
      · rw [List.mem_singleton.1 h]
        have hdigit : ∀ d < 10, (Nat.digitChar d).isDigit = true ∧
            (Nat.digitChar d).toNat < 128 := by decide
        exact hdigit _ (Nat.mod_lt n (by decide))

/-!
## Levels and calls
-/

/-- A text without line breaks. -/
structure SingleLine where
  text : String
  newline_not_mem : '\n' ∉ text.toList

instance : Inhabited SingleLine :=
  ⟨⟨"", by decide⟩⟩

inductive Level
  | trace
  | debug
  | info
  | warn
  | err
  | critical
  | off
deriving DecidableEq, Repr

/-- The `names` of `UppercaseLevelFlag`. -/
def Level.name : Level → String
  | trace => "TRACE  "
  | debug => "DEBUG  "
  | info => "INFO   "
  | warn => "WARNING"
  | err => "ERROR  "
  | critical => "CRITICAL"
  | off => "OFF    "

/-- The categories that the Chat Server logs under. -/
inductive Category
  | chat
  | internal
  | message
deriving DecidableEq, Repr

def Category.name : Category → String
  | chat => "Chat"
  | internal => "Chat:Internal"
  | message => "Chat:Message"

/-- A call of the logger: its text is `[category] message, key=value, ...`. -/
structure LogCall where
  level : Level
  category : Category
  message : String
  fields : List (String × String) := []
deriving DecidableEq, Repr

/-- One field of the text. -/
def field (x : String × String) : List Char :=
  ',' :: ' ' :: (x.1.toList ++ '=' :: x.2.toList)

namespace LogCall

/-- What follows the category in the text. -/
def body (call : LogCall) : List Char :=
  call.message.toList ++ call.fields.flatMap field

/-- The `%v` of the pattern. -/
def text (call : LogCall) : List Char :=
  '[' :: (call.category.name.toList ++ ']' :: ' ' :: call.body)

/-- What a call prints, up to the line break that ends it. -/
def print (t : SystemTime) (call : LogCall) : List Char :=
  t.format ++ " | ".toList ++ call.level.name.toList ++ " | ".toList ++ call.text

end LogCall

/-!
## Lines
-/

/-- Split a text into its lines. -/
def lines (cs : List Char) : List (List Char) :=
  cs.splitOn '\n'

theorem exists_lines (cs : List Char) : ∃ first rest, lines cs = first :: rest :=
  List.exists_cons_of_ne_nil (List.splitOn_ne_nil '\n' cs)

theorem lines_cons (c : Char) (cs : List Char) : lines (c :: cs) =
    if c == '\n' then [] :: lines cs else (lines cs).modifyHead (c :: ·) :=
  List.splitOn_cons_eq_if_modifyHead c cs

theorem lines_append_newline (xs ys : List Char) :
    lines (xs ++ '\n' :: ys) = lines xs ++ lines ys :=
  List.splitOn_append_cons_self xs ys

/-- A text without line breaks only adds to the first line of what follows it. -/
theorem lines_append {xs : List Char} (h : '\n' ∉ xs) (ys : List Char) :
    lines (xs ++ ys) = (lines ys).modifyHead (xs ++ ·) := by
  induction xs with
  | nil =>
      rw [List.nil_append]
      exact (congrFun List.modifyHead_id _).symm
  | cons x xs ih =>
      rw [List.mem_cons, not_or] at h
      rw [List.cons_append, lines_cons, if_neg (by simpa using Ne.symm h.1), ih h.2,
        List.modifyHead_modifyHead]
      rfl

theorem lines_eq_singleton_iff {cs : List Char} : lines cs = [cs] ↔ '\n' ∉ cs := by
  constructor
  · intro h hmem
    obtain ⟨xs, ys, rfl⟩ := List.append_of_mem hmem
    obtain ⟨x, rest, hxs⟩ := exists_lines xs
    obtain ⟨y, rest', hys⟩ := exists_lines ys
    rw [lines_append_newline, hxs, hys] at h
    have hlength := congrArg List.length h
    simp at hlength
  · exact List.splitOn_eq_singleton

namespace LogCall

theorem newline_not_mem_format (t : Timestamp) : '\n' ∉ t.format := by
  have hpadded : ∀ w n, '\n' ∉ padded w n := by
    intro w n hmem
    exact absurd (isDigit_padded hmem).1 (by decide)
  simp [Timestamp.format, hpadded]

/-- What is printed before the message of a call. -/
def start (t : SystemTime) (call : LogCall) : List Char :=
  t.format ++ (" | ".toList ++ (call.level.name.toList ++ (" | [".toList ++
    (call.category.name.toList ++ "] ".toList))))

theorem print_eq_start (t : SystemTime) (call : LogCall) :
    call.print t = call.start t ++ call.body := by
  simp [print, start, text]

theorem newline_not_mem_start (t : SystemTime) (call : LogCall) : '\n' ∉ call.start t := by
  have hlevel : '\n' ∉ call.level.name.toList := by cases call.level <;> decide
  have hcategory : '\n' ∉ call.category.name.toList := by cases call.category <;> decide
  simp [start, newline_not_mem_format, hlevel, hcategory]

/-- A call prints one line if its message and its fields have no line break. -/
theorem lines_print_iff (t : SystemTime) (call : LogCall) :
    lines (call.print t) = [call.print t] ↔ '\n' ∉ call.body := by
  rw [lines_eq_singleton_iff, print_eq_start, List.mem_append, not_or]
  exact and_iff_right (call.newline_not_mem_start t)

end LogCall

/-- What calls print, each at its time and with the line break that ends it. -/
def stdout (out : List (SystemTime × LogCall)) : List Char :=
  out.flatMap fun x => x.2.print x.1 ++ ['\n']

/-- The lines of the output are those of the calls. -/
theorem lines_stdout (out : List (SystemTime × LogCall)) :
    lines (stdout out) = (out.flatMap fun x => lines (x.2.print x.1)) ++ [[]] := by
  induction out with
  | nil => rfl
  | cons x out ih =>
      have hcons : stdout (x :: out) = x.2.print x.1 ++ '\n' :: stdout out := by
        simp [stdout]
      rw [hcons, lines_append_newline, ih, List.flatMap_cons, List.append_assoc]

end Logging

end SosBackend
