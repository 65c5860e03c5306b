import RequestPipeline.Http.Token

/-!
# Header fields

A header section holds any number of values for a name. Names are tokens in lower case; values are
bytes and need not be readable as a text. The fields stay sorted by name, and the values of one name
in the order in which they arrived, so two sections with the same content are equal.
-/

namespace RequestPipeline.Http

/-- The name of a header field: a token in lower case. -/
structure HeaderName where
  text : String
  token : (isToken text && text.toList.all fun c => !c.isUpper) = true := by decide
  deriving DecidableEq

namespace HeaderName

/-- The name that a text writes in any letter case. -/
def ofText? (s : String) : Option HeaderName :=
  let low := String.ofList (s.toList.map Char.toLower)
  if token : (isToken low && low.toList.all fun c => !c.isUpper) = true then some ⟨low, token⟩
  else none

end HeaderName

/-- The bytes of a header value: a tab, or no control character. -/
def isValueByte (b : UInt8) : Bool := (b ≥ 32 && b ≠ 127) || b == 9

/-- The bytes of a value that can be read as a text. -/
def isReadableByte (b : UInt8) : Bool := (32 ≤ b && b < 127) || b == 9

/-- The value of a header field. -/
structure HeaderValue where
  bytes : List UInt8
  valid : bytes.all isValueByte = true
  deriving DecidableEq

namespace HeaderValue

/-- The value with given bytes, unless one of them is a control character. -/
def ofBytes? (bytes : List UInt8) : Option HeaderValue :=
  if valid : bytes.all isValueByte = true then some ⟨bytes, valid⟩ else none

/-- The value that a text stands for, its bytes those of the encoded text. -/
def ofText? (s : String) : Option HeaderValue := ofBytes? s.toUTF8.toList

/-- The value of characters of ASCII, none of which is a control character. -/
def ofAscii (s : String)
    (valid : (s.toList.map fun c => UInt8.ofNat c.toNat).all isValueByte = true := by decide) :
    HeaderValue := ⟨s.toList.map fun c => UInt8.ofNat c.toNat, valid⟩

/-- The value as a text, if it holds visible characters of ASCII, spaces and tabs only. -/
def readable? (v : HeaderValue) : Option String :=
  if v.bytes.all isReadableByte then some (String.ofList (v.bytes.map fun b => Char.ofNat b.toNat))
  else none

/-- The value as a text; nothing stands for bytes that encode none. -/
def text (v : HeaderValue) : String := (String.fromUTF8? ⟨v.bytes.toArray⟩).getD ""

end HeaderValue

/-- A header field. -/
structure Field where
  name : HeaderName
  value : HeaderValue
  deriving DecidableEq

/-- Puts a field behind those whose name does not come later. -/
def Field.place (f : Field) : List Field → List Field
  | [] => [f]
  | g :: gs => if f.name.text < g.name.text then f :: g :: gs else g :: f.place gs

/-- A header section, its fields sorted by name. -/
structure Headers where
  fields : List Field
  deriving DecidableEq

/-- The values of one name, in order; there is one at least. -/
structure NamedValues where
  name : HeaderName
  first : HeaderValue
  more : List HeaderValue
  deriving DecidableEq

namespace Headers

/-- A section without fields. -/
def empty : Headers := ⟨[]⟩

instance : Inhabited Headers := ⟨empty⟩

/-- The values of a name, in order of arrival. -/
def values (h : Headers) (name : HeaderName) : List HeaderValue :=
  (h.fields.filter fun f => f.name = name).map (·.value)

/-- The first value of a name. -/
def first? (h : Headers) (name : HeaderName) : Option HeaderValue := (h.values name).head?

/-- Whether a name has a value. -/
def has (h : Headers) (name : HeaderName) : Bool := h.fields.any fun f => f.name = name

/-- Removes every value of a name. -/
def remove (h : Headers) (name : HeaderName) : Headers :=
  ⟨h.fields.filter fun f => f.name ≠ name⟩

/-- Adds a value behind those that the name has already. -/
def append (h : Headers) (name : HeaderName) (value : HeaderValue) : Headers :=
  ⟨Field.place ⟨name, value⟩ h.fields⟩

/-- Makes a value the only one of its name. -/
def insert (h : Headers) (name : HeaderName) (value : HeaderValue) : Headers :=
  (h.remove name).append name value

/-- Gives a name a value unless it has one. -/
def insertIfMissing (h : Headers) (name : HeaderName) (value : HeaderValue) : Headers :=
  if h.has name then h else h.append name value

/-- The names that have a value, each of them once. -/
def names (h : Headers) : List HeaderName :=
  h.fields.foldr (fun f ns => f.name :: ns.filter (· ≠ f.name)) []

/-- The values of a name, if it has one. -/
def group? (h : Headers) (name : HeaderName) : Option NamedValues :=
  match h.values name with
  | [] => none
  | v :: vs => some ⟨name, v, vs⟩

/-- The values of the section by name. -/
def grouped (h : Headers) : List NamedValues := h.names.filterMap h.group?

/-- Takes over the values of a name: the first in place of those that the name has, and the others
behind it. -/
def takeName (h : Headers) (g : NamedValues) : Headers :=
  g.more.foldl (fun h v => h.append g.name v) (h.insert g.name g.first)

/-- Takes over values name by name. -/
def takeOver (h : Headers) (given : List NamedValues) : Headers := given.foldl takeName h

/-- The first value of a name as a text, if it can be read as one. -/
def readable? (h : Headers) (name : HeaderName) : Option String :=
  (h.first? name).bind HeaderValue.readable?

theorem filter_place (p : Field → Bool) (f : Field) (fs : List Field) (hp : p f = false) :
    (f.place fs).filter p = fs.filter p := by
  induction fs with
  | nil => simp [Field.place, hp]
  | cons g gs ih =>
    unfold Field.place
    split
    · simp [hp]
    · simp [List.filter_cons, ih]

/-- Adding a value leaves those of other names alone. -/
theorem values_append_ne (h : Headers) {m n : HeaderName} (v : HeaderValue) (hmn : m ≠ n) :
    (h.append m v).values n = h.values n := by
  unfold values append
  rw [filter_place _ _ _ (by simp [hmn])]

/-- Removing the values of a name leaves those of other names alone. -/
theorem values_remove_ne (h : Headers) {m n : HeaderName} (hmn : m ≠ n) :
    (h.remove m).values n = h.values n := by
  unfold values remove
  congr 1
  rw [List.filter_filter]
  apply List.filter_congr
  intro f _
  by_cases hf : f.name = n
  · simp [hf, Ne.symm hmn]
  · simp [hf]

/-- A removed name has no value. -/
theorem values_remove_self (h : Headers) (n : HeaderName) : (h.remove n).values n = [] := by
  simp [values, remove, List.filter_filter]

/-- Replacing the values of a name leaves those of other names alone. -/
theorem values_insert_ne (h : Headers) {m n : HeaderName} (v : HeaderValue) (hmn : m ≠ n) :
    (h.insert m v).values n = h.values n := by
  unfold insert
  rw [values_append_ne _ _ hmn, values_remove_ne _ hmn]

end Headers

end RequestPipeline.Http
