import BusinessCalendar.Sorting
import BusinessCalendar.Value.Literal

/-!
# Comparing values

Numbers of all kinds compare as numbers and texts of all kinds as texts; lists, tuples and quarters
compare item by item.

* `Value.same` — equality; values of unlike kinds differ.
* `Value.before` — the order, decided by the first items that differ.  Values of unlike kinds, and
  values of a kind without an order, have none.
* `Value.sort` — a list in that order.
-/

namespace BusinessCalendar

namespace Value

/-- Whether two values are one thing although it is not equal to itself: the same not-a-number. -/
def sameNan : Value → Value → Bool
  | float (.nan tag), float (.nan other) => tag == other
  | _, _ => false

mutual

def same (v w : Value) : Bool :=
  match v, w with
  | null, null => true
  | bytes a, bytes b => a == b
  | list vs, list ws => sameItems vs ws
  | tuple _ vs, tuple _ ws => sameItems vs ws
  | dict keys vs, dict others ws => keys == others && sameItems vs ws
  | object a _, object b _ => a == b
  | moment a, moment b => a.same b
  | anchor a _ _, anchor b _ _ => a == b
  | convention c, convention d => c == d
  | quarter y i s e, quarter y' i' s' e' =>
    (same y y' || sameNan y y') && (same i i' || sameNan i i') && (same s s' || sameNan s s') &&
      (same e e' || sameNan e e')
  | weekendDays v, weekendDays w => v.same w
  | fiscalYear y, fiscalYear z => y == z
  | quarterProvider _ a, quarterProvider _ b => a == b
  | weekendProvider _ a, weekendProvider _ b => a == b
  | locale ⟨name, first, days⟩, locale ⟨name', first', days'⟩ =>
    name == name' && same first first' && same days days'
  | diagnostic ⟨code, message, hint, helpUrl, function, argument, received, severity⟩,
    diagnostic ⟨code', message', hint', helpUrl', function', argument', received', severity'⟩ =>
    code == code' && message == message' && hint == hint' && helpUrl == helpUrl' &&
      sameOption function function' && sameOption argument argument' &&
      sameOption received received' && severity == severity'
  | v, w =>
    match v.point?, w.point? with
    | some p, some q => p.same q
    | _, _ =>
      match v.text?, w.text? with
      | some s, some t => s == t
      | _, _ => false

/-- Whether two lists agree item by item. -/
def sameItems : List Value → List Value → Bool
  | [], [] => true
  | v :: vs, w :: ws => (same v w || sameNan v w) && sameItems vs ws
  | _, _ => false

/-- Whether two things that may be missing agree; what is missing is null. -/
def sameOption : Option Value → Option Value → Bool
  | none, none | none, some null | some null, none => true
  | some v, some w => same v w
  | _, _ => false

end

/-- Whether two items of a collection agree. -/
def sameItem (v w : Value) : Bool := v.same w || v.sameNan w

def unordered (a b : Value) : Fault :=
  let left := a.qualifiedKindName
  let right := b.qualifiedKindName
  .unordered s!"'<' not supported between instances of '{left}' and '{right}'"

mutual

/-- Whether a value comes before another one. -/
def before (v w : Value) : Outcome Bool :=
  match v, w with
  | bytes a, bytes b => .ok (decide (a < b))
  | list vs, list ws => beforeItems vs ws
  | tuple _ vs, tuple _ ws => beforeItems vs ws
  | moment a, moment b => a.before b
  | quarter y i s e, quarter y' i' s' e' =>
    if !y.sameItem y' then before y y'
    else if !i.sameItem i' then before i i'
    else if !s.sameItem s' then before s s'
    else if !e.sameItem e' then before e e'
    else .ok false
  | v, w =>
    match v.point?, w.point? with
    | some p, some q => .ok (p.before q)
    | _, _ =>
      match v.text?, w.text? with
      | some s, some t => .ok (decide (s < t))
      | _, _ => .error (unordered v w)

/-- Whether a list comes before another one: by the first items that differ, or by length. -/
def beforeItems : List Value → List Value → Outcome Bool
  | v :: vs, w :: ws => if v.sameItem w then beforeItems vs ws else before v w
  | [], _ :: _ => .ok true
  | _, [] => .ok false

end

/-- The values of a list in order. -/
def sort (vs : List Value) : Outcome (List Value) := sortBy before vs

end Value

end BusinessCalendar
