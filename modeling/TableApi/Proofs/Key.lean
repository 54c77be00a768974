/-
Keys, and the cells that compare as equal with them.

A key is looked up by comparing it with the cell of the key column, and
numbers compare as doubles. So an integer key finds the cell that holds
it, and also every other integer with the same double: the two are
*confused*. Integers of at most 53 bits are confused with none.

# The key that a cell spells

What the text of a cell spells as a key depends on the type of the key
column. In an integer column it spells the integer, and every cell whose
text is that integer compares as equal with it. In a UUID column it
spells the canonical form, while the cell keeps the spelling it was
given: they are equal only if that spelling was canonical. In any other
column it spells itself; strings and integers compare as equal with
their text, and booleans, arrays and objects with no text at all.
-/
import TableApi.Proofs.Condition.Comparison
import TableApi.Proofs.Numeric.Integer
import TableApi.Proofs.Numeric.Reading
import TableApi.Repository.Basic
import TableApi.Store.Execute

namespace TableApi

open Json

-- ======================================================== confused keys

/-- A row has an integer key if an integer of 64 bits stands in its key
column. -/
theorem Table.integerKey?_eq_some_iff {t : Table} {row : Row} {k : Int} :
    t.integerKey? row = some k
      ↔ row.get? t.primaryKey = some (.int k) ∧ int64Min ≤ k ∧ k ≤ int64Max := by
  unfold Table.integerKey?
  constructor
  · intro h
    split at h
    case h_1 n hcell =>
      cases n with
      | float x => cases h
      | int i =>
          simp only [Number.toInt64?] at h
          split at h
          case isTrue hrange =>
            obtain rfl : i = k := Option.some.inj h
            exact ⟨hcell, hrange⟩
          case isFalse => cases h
    case h_2 => cases h
  · rintro ⟨hcell, hrange⟩
    rw [hcell]
    exact if_pos hrange

/-- The key is the cell. -/
theorem Table.cell_of_integerKey? {t : Table} {row : Row} {k : Int}
    (h : t.integerKey? row = some k) : row.cell t.primaryKey = .int k := by
  rw [Row.cell, (Table.integerKey?_eq_some_iff.1 h).1, Option.getD_some]

/-- The key is not the integer, and yet compares with it as equal. -/
def Key.Confused (k : Int) : Key → Prop
  | .int n => k ≠ n ∧ Double.ofInt k = Double.ofInt n
  | .text s => ∃ x, Double.read? s.toList = some x ∧ (Double.ofInt k).compare? x = some .eq

/-- What compares with an integer as equal is the integer, or confused
with it. -/
theorem Key.compare?_int_eq_iff (k : Int) (key : Key) :
    (Value.int k).compare? key.toValue = some .eq ↔ key = .int k ∨ key.Confused k := by
  cases key with
  | int n =>
      have hcompare : (Value.int k).compare? (Key.int n).toValue
          = (Double.ofInt k).compare? (.ofInt n) := rfl
      rw [hcompare, Double.compare?_ofInt_eq_iff]
      constructor
      · intro h
        by_cases hk : k = n
        · exact .inl (by rw [hk])
        · exact .inr ⟨hk, h⟩
      · rintro (h | ⟨-, h⟩)
        · cases h
          rfl
        · exact h
  | text s =>
      have hcompare : (Value.int k).compare? (Key.text s).toValue
          = (Double.read? s.toList).bind fun x => (Double.ofInt k).compare? x := rfl
      rw [hcompare, Option.bind_eq_some_iff]
      constructor
      · exact .inr
      · rintro (h | h)
        · cases h
        · exact h

/-- An integer of at most 53 bits is confused with no other. -/
theorem Key.not_confused_of_lt {k n : Int} (hn : n.natAbs < 2 ^ 53) :
    ¬ (Key.int n).Confused k :=
  fun ⟨hne, heq⟩ => hne (Double.ofInt_inj_of_lt hn heq)

-- ===================================================== what a key keeps

namespace Resource

variable {r : Resource} {row : Row} {k : Int}

/-- A row has a key if its own compares as equal with it. -/
theorem keeps_hasKey {key : Key} :
    (r.hasKey key).keeps row = true
      ↔ (row.cell r.table.primaryKey).compare? key.toValue = some .eq := by
  rw [Condition.keeps_iff]
  exact Condition.compareTruth_eq_yes_iff

/-- An integer is the key of its own row, and of those it is confused with.
-/
theorem keeps_hasKey_of_integer (hk : r.table.integerKey? row = some k) (key : Key) :
    (r.hasKey key).keeps row = true ↔ key = .int k ∨ key.Confused k := by
  rw [keeps_hasKey, Table.cell_of_integerKey? hk, Key.compare?_int_eq_iff]

/-- A list of keys keeps a row exactly if one of them does. -/
theorem keeps_inList_iff {keys : List Key} :
    (Condition.inList r.table.primaryKey (keys.map Key.toValue) false).keeps row = true
      ↔ ∃ key ∈ keys, (r.hasKey key).keeps row = true := by
  rw [Condition.keeps_iff, Condition.eval]
  show Condition.memberTruth (row.cell r.table.primaryKey) (keys.map Key.toValue) = .yes ↔ _
  rw [Condition.memberTruth_eq_yes_iff]
  simp only [List.mem_map, exists_exists_and_eq_and, keeps_hasKey]

/-- An integer is one of a list of keys if it is among them, or confused
with one. -/
theorem keeps_inList_of_integer (hk : r.table.integerKey? row = some k) (keys : List Key) :
    (Condition.inList r.table.primaryKey (keys.map Key.toValue) false).keeps row = true
      ↔ ∃ key ∈ keys, key = .int k ∨ key.Confused k := by
  simp only [keeps_inList_iff, keeps_hasKey_of_integer hk]

end Resource

-- ============================================== values and their texts

namespace Json.Value

/-- Texts compare as equal only if they are. -/
theorem compareText_eq_iff {a b : String} : compareText a b = .eq ↔ a = b := by
  unfold compareText
  constructor
  · intro h
    split at h
    · cases h
    · split at h
      · assumption
      · cases h
  · rintro rfl
    rw [if_neg (String.lt_irrefl a), if_pos rfl]

/-- A value whose text is an integer compares as equal with it. -/
theorem compare?_of_int?_text {v : Value} {text : String} {i : Int}
    (hv : v.plainText? = some text) (hi : Decimal.int? text.toList = some i) :
    v.compare? (.int i) = some .eq := by
  -- A string is the text itself; of the others only integers have one.
  have hchars : v.plainText? = some v.text → Decimal.int? v.chars = some i := by
    intro h
    rw [h] at hv
    obtain rfl := Option.some.inj hv
    rw [text, String.toList_ofList] at hi
    exact hi
  have hmarked : ∀ {c : Char} {cs : List Char}, v.plainText? = some v.text →
      v.chars = c :: cs → Decimal.isIntegerChar c = false → False := by
    intro c cs htext hcs hc
    have hint := hchars htext
    rw [hcs, Decimal.int?_eq_none_of_mem List.mem_cons_self hc] at hint
    cases hint
  cases v with
  | null => cases hv
  | bool b =>
      cases b with
      | false => exact (hmarked rfl rfl rfl).elim
      | true => exact (hmarked rfl rfl rfl).elim
  | number n =>
      have hint : Decimal.int? n.text = some i := hchars rfl
      cases n with
      | int k =>
          have hk : k = i := by simpa [Number.text] using hint
          subst hk
          exact (Key.compare?_int_eq_iff k (.int k)).2 (.inl rfl)
      | float x => simp [Number.text, Decimal.int?_floatText] at hint
  | string s =>
      obtain rfl : s = text := Option.some.inj hv
      obtain ⟨x, hread, hcompare, _⟩ := Double.compare?_read?_of_int? hi
      show (Double.read? s.toList).bind (fun x => x.compare? (.ofInt i)) = some Ordering.eq
      rw [hread, Option.bind_some, hcompare]
  | array items => exact (hmarked rfl rfl rfl).elim
  | object fields => exact (hmarked rfl rfl rfl).elim

theorem compare?_string (s t : String) :
    (Value.string s).compare? (.string t) = some .eq ↔ s = t := by
  show some (compareText s t) = some Ordering.eq ↔ _
  rw [Option.some.injEq, compareText_eq_iff]

/-- An integer compares as equal with its text. -/
theorem compare?_int_text (k : Int) :
    (Value.int k).compare? (.string (Value.int k).text) = some .eq := by
  obtain ⟨x, hread, _, hcompare⟩ :=
    Double.compare?_read?_of_int? (Decimal.int?_intText k)
  have htext : (Value.int k).text.toList = intText k := by
    rw [Value.text, String.toList_ofList, Value.int, Value.chars, Number.text]
  refine (Key.compare?_int_eq_iff k (.text _)).2 (.inr ⟨x, ?_, hcompare⟩)
  rw [htext, hread]

end Json.Value

-- =============================================== a cell and its own key

/-- Whether a cell is kept by the key that its own text spells, by the
type of the key column. -/
structure Key.KeepsOwn (column : Option Column) (cell : Value) (key : Key)
    (kept : Bool) : Prop where
  integer : ∀ c, column = some c → c.isInteger = true → kept = true
  uuid : ∀ c, column = some c → c.isInteger = false → c.isUuid = true →
    ∀ s, cell = .string s → (kept = true ↔ key = .text s)
  text : (∀ c, column = some c → c.isInteger = false ∧ c.isUuid = false) →
    ((∃ s, cell = .string s) ∨ ∃ k, cell = .int k) → kept = true
  other : (∀ c, column = some c → c.isInteger = false ∧ c.isUuid = false) →
    ((∃ b, cell = .bool b) ∨ (∃ vs, cell = .array vs) ∨ ∃ fs, cell = .object fs) →
      kept = false

/-- A column that holds neither integers nor UUIDs takes a key as it
is. -/
theorem Key.parseFor_plain {column : Option Column} {raw : String}
    (hplain : ∀ c, column = some c → c.isInteger = false ∧ c.isUuid = false) :
    Key.parseFor column raw = .ok (.text raw) := by
  cases column with
  | none => rfl
  | some c =>
      obtain ⟨hint, huuid⟩ := hplain c rfl
      simp [Key.parseFor, hint, huuid]

/-- A row is found by the key that the text of its own is read as, if that
is spelled as keys of its column are. -/
theorem Key.keepsOwn {r : Resource} {row : Row} {raw : String} {key : Key}
    (hraw : (row.cell r.table.primaryKey).plainText? = some raw)
    (hkey : Key.parseFor r.table.keyColumn? raw = .ok key) :
    KeepsOwn r.table.keyColumn? (row.cell r.table.primaryKey) key
      ((r.hasKey key).keeps row) := by
  constructor
  · intro c hc hint
    rw [hc, Key.parseFor, if_pos hint] at hkey
    split at hkey
    · next n hn =>
      obtain rfl := Except.ok.inj hkey
      have hi : Decimal.int? raw.toList = some n := by
        unfold Decimal.boundedInt? at hn
        exact (Option.filter_eq_some_iff.1 hn).1
      exact Resource.keeps_hasKey.2 (Value.compare?_of_int?_text hraw hi)
    · cases hkey
  · intro c hc hint huuid s hs
    rw [hs] at hraw
    obtain rfl : s = raw := Option.some.inj hraw
    rw [hc, Key.parseFor, if_neg (by simp [hint]), if_pos huuid] at hkey
    split at hkey
    · next cs _ =>
      obtain rfl := Except.ok.inj hkey
      rw [Resource.keeps_hasKey, hs]
      show (Value.string s).compare? (.string (String.ofList cs)) = some Ordering.eq ↔ _
      rw [Value.compare?_string, Key.text.injEq]
      exact eq_comm
    · cases hkey
  · intro hplain hcell
    rw [Key.parseFor_plain hplain] at hkey
    obtain rfl := Except.ok.inj hkey
    rw [Resource.keeps_hasKey]
    rcases hcell with ⟨s, hs⟩ | ⟨k, hk⟩
    · rw [hs] at hraw ⊢
      exact (Value.compare?_string s raw).2 (Option.some.inj hraw)
    · rw [hk] at hraw ⊢
      obtain rfl : (Value.int k).text = raw := Option.some.inj hraw
      exact Value.compare?_int_text k
  · intro hplain hcell
    rw [Key.parseFor_plain hplain] at hkey
    obtain rfl := Except.ok.inj hkey
    cases hkeeps : (r.hasKey (.text raw)).keeps row with
    | false => rfl
    | true =>
        have hcompare := Resource.keeps_hasKey.1 hkeeps
        rcases hcell with ⟨b, hb⟩ | ⟨vs, hvs⟩ | ⟨fs, hfs⟩
        · rw [hb] at hcompare
          cases hcompare
        · rw [hvs] at hcompare
          cases hcompare
        · rw [hfs] at hcompare
          cases hcompare

end TableApi
