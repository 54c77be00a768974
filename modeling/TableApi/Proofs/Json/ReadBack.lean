/-
Reading a value back from its own tree.

The tree of a value is unbroken and its objects have their fields in
ascending order (`Ordered`), so reading it gives the value again, with one
exception: an object whose first key is that of an embedded text stands for
the value of the text and not for itself. It never reads as itself either,
for what a text is read as has no field of that key alone
(`readUpTo?_ne`). So a value reads as itself exactly if it is `Plain`.
-/
import Mathlib.Data.List.Induction
import TableApi.Json.Document

namespace TableApi.Json

-- ================================================================= fields

/-- A field with the greatest key comes behind the others. -/
theorem setField_of_lt {key : String} {value : Value} {fields : List (String × Value)}
    (h : ∀ field ∈ fields, field.1 < key) :
    setField key value fields = fields ++ [(key, value)] := by
  induction fields with
  | nil => rfl
  | cons field fields ih =>
      obtain ⟨hfirst, hrest⟩ := List.forall_mem_cons.1 h
      have hle : ¬ key < field.1 := fun hlt => String.lt_irrefl _ (String.lt_trans hlt hfirst)
      have hne : key ≠ field.1 := fun heq => String.lt_irrefl _ (heq ▸ hfirst)
      rw [setField, if_neg hle, if_neg hne, ih hrest]
      rfl

/-- Fields in ascending order are in order already. -/
theorem orderFields_of_ascending {fields : List (String × Value)} (h : Ascending fields) :
    orderFields fields = fields := by
  induction fields using List.reverseRecOn with
  | nil => rfl
  | append_singleton fields last ih =>
      obtain ⟨hfields, -, hlast⟩ := List.pairwise_append.1 h
      have hlt : ∀ field ∈ fields, field.1 < last.1 :=
        fun field hfield => hlast field hfield last (List.mem_singleton_self last)
      rw [orderFields, List.foldl_append, ← orderFields, ih hfields]
      exact setField_of_lt hlt

/-- Setting a field adds its key and no other. -/
theorem mem_keys_setField {key name : String} {value : Value} {fields : List (String × Value)} :
    name ∈ (setField key value fields).map Prod.fst ↔ name = key ∨ name ∈ fields.map Prod.fst := by
  induction fields with
  | nil => simp [setField]
  | cons field fields ih =>
      rw [setField]
      split
      · simp
      · split
        · next heq => simp [heq]
        · rw [List.map_cons, List.mem_cons, ih, List.map_cons, List.mem_cons, or_left_comm]

/-- Ordering fields keeps their keys. -/
theorem mem_keys_orderFields {name : String} {fields : List (String × Value)} :
    name ∈ (orderFields fields).map Prod.fst ↔ name ∈ fields.map Prod.fst := by
  induction fields using List.reverseRecOn with
  | nil => exact Iff.rfl
  | append_singleton fields last ih =>
      rw [orderFields, List.foldl_append, ← orderFields]
      simp only [List.foldl_cons, List.foldl_nil, mem_keys_setField, ih, List.map_append,
        List.map_cons, List.map_nil, List.mem_append, List.mem_singleton, or_comm]

-- ================================================================ notions

namespace Value

mutual

/-- Every object in the value has its fields in ascending order. -/
def Ordered : Value → Prop
  | .array items => OrderedItems items
  | .object fields => Ascending fields ∧ OrderedFields fields
  | _ => True

def OrderedItems : List Value → Prop
  | [] => True
  | v :: vs => v.Ordered ∧ OrderedItems vs

def OrderedFields : List (String × Value) → Prop
  | [] => True
  | (_, v) :: fs => v.Ordered ∧ OrderedFields fs

end

mutual

/-- No object in the value begins with the key of an embedded text. -/
def Plain : Value → Prop
  | .array items => PlainItems items
  | .object fields => fields.head?.map Prod.fst ≠ some Document.textKey ∧ PlainFields fields
  | _ => True

def PlainItems : List Value → Prop
  | [] => True
  | v :: vs => v.Plain ∧ PlainItems vs

def PlainFields : List (String × Value) → Prop
  | [] => True
  | (_, v) :: fs => v.Plain ∧ PlainFields fs

end

end Value

namespace Document

-- ======================================================= the tree of a value

mutual

/-- The document of a value has nothing missing. -/
theorem isSound_ofValue : ∀ v : Value, (ofValue v).isSound = true
  | .null | .bool _ | .number _ | .string _ => rfl
  | .array items => by rw [ofValue, isSound, areSound_ofItems items]; rfl
  | .object fields => by rw [ofValue, isSound, fieldsAreSound_ofFields fields]; rfl

theorem areSound_ofItems (items : List Value) : areSound (ofItems items) = true := by
  cases items with
  | nil => rfl
  | cons v vs => rw [ofItems, areSound, isSound_ofValue v, areSound_ofItems vs]; rfl

theorem fieldsAreSound_ofFields :
    ∀ fields : List (String × Value), fieldsAreSound (ofFields fields) = true
  | [] => rfl
  | (k, v) :: fs => by
      rw [ofFields, fieldsAreSound, isSound_ofValue v, fieldsAreSound_ofFields fs]
      rfl

end

-- ========================================================= embedded texts

variable {embedded : String → Option Value} {room : Nat}

/-- Texts are not read as an object with nothing but an embedded text. -/
def Unwraps (embedded : String → Option Value) : Prop :=
  ∀ text v, embedded text ≠ some (.object [(textKey, v)])

/-- An embedded text is a value only where nothing stands beside it. -/
theorem readText_eq_ok {d : Document} {ends : Bool} {v : Value}
    (h : readText embedded d ends = .ok v) : ends = true ∧ ∃ text, embedded text = some v := by
  unfold readText at h
  split at h
  · next text =>
    split at h
    · next w hw =>
      split at h
      · next hends =>
        obtain rfl := Except.ok.inj h
        exact ⟨hends, text, hw⟩
      · cases h
    · cases h
  · cases h

/-- What is read of a tree is no object with nothing but an embedded text:
either its first field has another key, or the text was read already. -/
theorem readWith_ne (hembedded : Unwraps embedded) (d : Document) (v : Value) :
    d.readWith embedded room ≠ .ok (.object [(textKey, v)]) := by
  intro h
  cases d with
  | null | bool | missing => cases h
  | number n => cases n <;> cases h
  | string s => cases s <;> cases h
  | array items closed =>
      rw [readWith] at h
      split at h
      · cases h
      · split at h
        · split at h <;> cases h
        · cases h
  | object fields closed =>
      unfold readWith at h
      split at h
      · cases h
      · split at h
        · next key d rest =>
          split at h
          · obtain ⟨-, text, htext⟩ := readText_eq_ok h
            exact hembedded text v htext
          · next hkey =>
            split at h
            · next w fs _ _ =>
              split at h
              · have hmem : key ∈ (orderFields ((key, w) :: fs)).map Prod.fst :=
                  mem_keys_orderFields.2 List.mem_cons_self
                rw [Value.object.inj (Except.ok.inj h)] at hmem
                exact hkey (List.mem_singleton.1 hmem)
              · cases h
            · cases h
            · cases h
        · cases h
        · split at h <;> cases h

end Document

namespace Value

/-- However often texts are embedded in one another. -/
theorem unwraps_readUpTo? : ∀ levels : Nat, Document.Unwraps (readUpTo? levels)
  | 0, _, _ => nofun
  | levels + 1, text, v => by
      intro h
      obtain ⟨d, -, hread⟩ := Option.bind_eq_some_iff.1 h
      cases hresult : d.readWith (readUpTo? levels) Document.maxDepth with
      | error fault => rw [hresult] at hread; cases hread
      | ok w =>
          rw [hresult] at hread
          obtain rfl : w = .object [(Document.textKey, v)] := Option.some.inj hread
          exact Document.readWith_ne (unwraps_readUpTo? levels) d v hresult

/-- No text is read as an object with nothing but an embedded text. -/
theorem unwraps_read? : Document.Unwraps read? := fun text => unwraps_readUpTo? text.length text

end Value

namespace Document

-- ============================================================ reading back

variable {embedded : String → Option Value} {room : Nat}

/-- Reading fields keeps their keys. -/
theorem map_fst_readFields {fields read : List (String × Value)}
    (h : readFields embedded room (ofFields fields) = .ok read) :
    read.map Prod.fst = fields.map Prod.fst := by
  induction fields generalizing read with
  | nil =>
      obtain rfl : [] = read := Except.ok.inj h
      rfl
  | cons field fields ih =>
      rw [ofFields, readFields] at h
      split at h
      · next v fs _ hfs =>
        obtain rfl := Except.ok.inj h
        rw [List.map_cons, List.map_cons, ih hfs]
      · cases h
      · cases h

/-- Whether fields are in order depends on their keys only. -/
theorem ascending_of_map_fst {fields others : List (String × Value)}
    (h : fields.map Prod.fst = others.map Prod.fst) (hothers : Ascending others) :
    Ascending fields := by
  rw [Ascending, ← List.pairwise_map (f := Prod.fst)] at hothers ⊢
  exact h ▸ hothers

mutual

/-- A value is read back as it is exactly if it is plain. -/
theorem readWith_ofValue (hembedded : Unwraps embedded) :
    ∀ (v : Value) (room : Nat), v.Ordered → (ofValue v).depth ≤ room →
      ((ofValue v).readWith embedded room = .ok v ↔ v.Plain)
  | .null, _, _, _ | .bool _, _, _, _ | .number _, _, _, _ | .string _, _, _, _ =>
      ⟨fun _ => trivial, fun _ => rfl⟩
  | .array items, room, hordered, hroom => by
      rw [ofValue, depth] at hroom
      have ih := readItems_ofItems hembedded items (room - 1) hordered (by omega)
      rw [Value.Plain, ← ih, ofValue, readWith, if_neg (by omega)]
      cases readItems embedded (room - 1) (ofItems items) with
      | error fault => exact ⟨nofun, nofun⟩
      | ok vs => simp
  | .object [], room, _, hroom => by
      rw [ofValue, depth] at hroom
      rw [ofValue]
      unfold readWith
      rw [if_neg (by omega)]
      exact ⟨fun _ => ⟨nofun, trivial⟩, fun _ => rfl⟩
  | .object ((key, v) :: rest), room, hordered, hroom => by
      obtain ⟨hascending, hv, hrest⟩ := hordered
      rw [ofValue, depth, ofFields, depthOfFields] at hroom
      rw [ofValue]
      unfold readWith
      rw [if_neg (by omega), ofFields]
      dsimp only
      by_cases hkey : key = textKey
      · rw [if_pos hkey]
        constructor
        · intro h
          obtain ⟨hends, text, htext⟩ := readText_eq_ok h
          have hnil : rest = [] := by
            cases rest with
            | nil => rfl
            | cons field rest => cases hends
          exact absurd (hkey ▸ hnil ▸ htext) (hembedded text v)
        · exact fun hplain => absurd (congrArg some hkey) hplain.1
      · rw [if_neg hkey]
        have ihv := readWith_ofValue hembedded v (room - 1) hv (by omega)
        have ihrest := readFields_ofFields hembedded rest (room - 1) hrest (by omega)
        have hplain : (Value.object ((key, v) :: rest)).Plain
            ↔ v.Plain ∧ Value.PlainFields rest := by
          rw [Value.Plain, Value.PlainFields]
          exact and_iff_right fun heq => hkey (Option.some.inj heq)
        rw [hplain, ← ihv, ← ihrest]
        cases hread : (ofValue v).readWith embedded (room - 1) with
        | error fault => exact ⟨nofun, nofun⟩
        | ok w =>
            cases hfields : readFields embedded (room - 1) (ofFields rest) with
            | error fault => exact ⟨nofun, nofun⟩
            | ok fs =>
                have hkeys : ((key, w) :: fs).map Prod.fst = ((key, v) :: rest).map Prod.fst :=
                  congrArg (key :: ·) (map_fst_readFields hfields)
                have hsorted : orderFields ((key, w) :: fs) = (key, w) :: fs :=
                  orderFields_of_ascending (ascending_of_map_fst hkeys hascending)
                simp [Value.ofFields, hsorted]

/-- Items are read back if they are plain. -/
theorem readItems_ofItems (hembedded : Unwraps embedded) :
    ∀ (items : List Value) (room : Nat), Value.OrderedItems items →
      depthOfItems (ofItems items) ≤ room →
      (readItems embedded room (ofItems items) = .ok items ↔ Value.PlainItems items)
  | [], _, _, _ => ⟨fun _ => trivial, fun _ => rfl⟩
  | v :: vs, room, hordered, hroom => by
      rw [ofItems, depthOfItems] at hroom
      have ihv := readWith_ofValue hembedded v room hordered.1 (by omega)
      have ihvs := readItems_ofItems hembedded vs room hordered.2 (by omega)
      rw [Value.PlainItems, ← ihv, ← ihvs, ofItems, readItems]
      cases (ofValue v).readWith embedded room with
      | error fault => exact ⟨nofun, nofun⟩
      | ok w =>
          cases readItems embedded room (ofItems vs) with
          | error fault => exact ⟨nofun, nofun⟩
          | ok ws => simp

/-- Fields are read back if they are plain. -/
theorem readFields_ofFields (hembedded : Unwraps embedded) :
    ∀ (fields : List (String × Value)) (room : Nat), Value.OrderedFields fields →
      depthOfFields (ofFields fields) ≤ room →
      (readFields embedded room (ofFields fields) = .ok fields ↔ Value.PlainFields fields)
  | [], _, _, _ => ⟨fun _ => trivial, fun _ => rfl⟩
  | (key, v) :: fs, room, hordered, hroom => by
      rw [ofFields, depthOfFields] at hroom
      have ihv := readWith_ofValue hembedded v room hordered.1 (by omega)
      have ihfs := readFields_ofFields hembedded fs room hordered.2 (by omega)
      rw [Value.PlainFields, ← ihv, ← ihfs, ofFields, readFields]
      cases (ofValue v).readWith embedded room with
      | error fault => exact ⟨nofun, nofun⟩
      | ok w =>
          cases readFields embedded room (ofFields fs) with
          | error fault => exact ⟨nofun, nofun⟩
          | ok ws => simp

end

/-- A value is read back exactly if it is plain. -/
theorem value?_ofValue {v : Value} (h : v.Ordered) : (ofValue v).value? = some v ↔ v.Plain := by
  rw [← readWith_ofValue Value.unwraps_read? v (ofValue v).depth h (Nat.le_refl _), value?, read]
  cases (ofValue v).readWith Value.read? (ofValue v).depth with
  | error fault => exact ⟨nofun, nofun⟩
  | ok w => exact ⟨fun h => congrArg _ (Option.some.inj h), fun h => congrArg _ (Except.ok.inj h)⟩

end Document

end TableApi.Json
