import IndustrialGateway.Lib.IeeeFloat
import IndustrialGateway.Lib.JsonReader

/-!
# Round trips through JSON texts

`json.loads` gives back every value that `json.dumps` has written.
-/

namespace JsonReader

open Reader

variable {F : Type}

mutual
/-- No dictionary of the value has a key twice. -/
def keyed : PyValue F → Bool
  | .list xs => keyedList xs
  | .dict kvs => decide (kvs.map Prod.fst).Nodup && keyedDict kvs
  | _ => true
def keyedList : List (PyValue F) → Bool
  | [] => true
  | x :: xs => keyed x && keyedList xs
def keyedDict : List (String × PyValue F) → Bool
  | [] => true
  | (_, x) :: kvs => keyed x && keyedDict kvs
end

theorem keyedList_iff {xs : List (PyValue F)} : keyedList xs = true ↔ ∀ x ∈ xs, keyed x = true := by
  induction xs with
  | nil => simp [keyedList]
  | cons x xs ih => rw [keyedList, Bool.and_eq_true, ih, List.forall_mem_cons]

theorem keyedDict_iff {kvs : List (String × PyValue F)} :
    keyedDict kvs = true ↔ ∀ p ∈ kvs, keyed p.2 = true := by
  induction kvs with
  | nil => simp [keyedDict]
  | cons p kvs ih =>
    obtain ⟨k, x⟩ := p
    rw [keyedDict, Bool.and_eq_true, ih, List.forall_mem_cons]

theorem keyed_dict_iff {kvs : List (String × PyValue F)} :
    keyed (.dict kvs) = true ↔ (kvs.map Prod.fst).Nodup ∧ ∀ p ∈ kvs, keyed p.2 = true := by
  rw [keyed, Bool.and_eq_true, decide_eq_true_eq, keyedDict_iff]

-- ---------------------------------------------------------------------------
-- What is read can be written
-- ---------------------------------------------------------------------------

/-- A value as `json.loads` makes them. -/
structure Plain (v : PyValue F) : Prop where
  writable : PyValue.checkJson v = .ok ()
  keyed : keyed v = true

section

variable [PyRuntime F]

theorem plain_number {cs rest : List Char} {v : PyValue F} (h : number cs = some (v, rest)) : Plain v := by
  unfold number at h
  dsimp only at h
  split at h
  · cases h
  · split at h
    · obtain ⟨n, -, heq⟩ := Option.map_eq_some_iff.mp h
      cases heq
      exact ⟨rfl, rfl⟩
    · obtain ⟨x, -, heq⟩ := Option.map_eq_some_iff.mp h
      cases heq
      exact ⟨rfl, rfl⟩

theorem plain_wordOf {cs : List Char} {word : String × Option (PyValue F)} (h : wordOf cs = some word)
    {v : PyValue F} (hv : word.2 = some v) : Plain v := by
  have hmem := List.mem_of_find?_eq_some h
  simp only [constants, List.mem_cons, List.not_mem_nil, or_false] at hmem
  rcases hmem with rfl | rfl | rfl | rfl | rfl | rfl
  all_goals first
    | cases hv; exact ⟨rfl, rfl⟩
    | obtain ⟨x, -, rfl⟩ := Option.map_eq_some_iff.mp hv; exact ⟨rfl, rfl⟩

omit [PyRuntime F] in
theorem plain_member {read : Reader (PyValue F)} (hread : ∀ cs v rest, read cs = some (v, rest) → Plain v)
    {cs rest : List Char} {p : String × PyValue F} (h : member read cs = some (p, rest)) : Plain p.2 := by
  unfold member at h
  split at h
  · split at h
    · cases h
    · split at h
      · obtain ⟨⟨v, last⟩, hv, heq⟩ := Option.map_eq_some_iff.mp h
        cases heq
        exact hread _ _ _ hv
      · cases h
  · cases h

theorem plain_value {fuel : Nat} {cs rest : List Char} {v : PyValue F}
    (h : value fuel cs = some (v, rest)) : Plain v := by
  induction fuel generalizing cs v rest with
  | zero => cases h
  | succ fuel ih =>
    cases cs with
    | nil => cases h
    | cons c cs =>
      rw [value] at h
      split at h
      · obtain ⟨⟨s, last⟩, -, heq⟩ := Option.map_eq_some_iff.mp h
        cases heq
        exact ⟨rfl, rfl⟩
      split at h
      · obtain ⟨⟨xs, last⟩, hxs, heq⟩ := Option.map_eq_some_iff.mp h
        cases heq
        have hall := bracketed_all (p := Plain) (fun _ _ _ => ih) hxs
        exact ⟨PyValue.checkJsonList_eq_ok.mpr fun x hx => (hall x hx).writable,
          keyedList_iff.mpr fun x hx => (hall x hx).keyed⟩
      split at h
      · obtain ⟨⟨kvs, last⟩, hkvs, heq⟩ := Option.map_eq_some_iff.mp h
        cases heq
        have hall := bracketed_all (p := fun p => Plain p.2)
          (fun _ _ _ => plain_member fun _ _ _ => ih) hkvs
        have hentries : ∀ p ∈ (OrderedDict.ofList kvs).entries, Plain p.2 := by
          intro p hp
          rcases OrderedDict.mem_entries_update.mp hp with hlast | ⟨-, hold⟩
          · exact hall p (List.mem_filter.mp (List.mem_of_getLast? hlast)).1
          · cases hold
        exact ⟨PyValue.checkJsonDict_eq_ok.mpr fun p hp => (hentries p hp).writable,
          keyed_dict_iff.mpr ⟨(OrderedDict.ofList kvs).nodup, fun p hp => (hentries p hp).keyed⟩⟩
      split at h
      · rename_i word hword
        obtain ⟨x, hx, heq⟩ := Option.map_eq_some_iff.mp h
        cases heq
        exact plain_wordOf hword hx
      · exact plain_number h

theorem plain_loads {text : String} {v : PyValue F} (h : loads text = some v) : Plain v := by
  rw [loads] at h
  split at h
  · cases h
  · split at h
    · rename_i x rest hvalue
      split at h
      · cases h
        exact plain_value hvalue
      · cases h
    · cases h

end

end JsonReader

/-- A finite float is written with a point or an exponent, and any other as one of three
words. -/
class PyLoads (F : Type) [PyJson F] : Prop where
  isWhole_repr : ∀ (x : F) n, PyRuntime.trunc x = some n →
    JsonReader.isWhole (PyRuntime.repr x).toList = false
  repr_special : ∀ x : F, PyRuntime.trunc x = none → PyRuntime.repr x =
    if PyRuntime.isNaN x then "nan" else if PyRuntime.lt x (PyRuntime.lit 0) then "-inf" else "inf"

namespace JsonReader

open Reader
open PyValue (json jsonList jsonDict jsonString jsonFloat checkJson)

variable {pad : List Char}

def jsonMember [PyRuntime F] (pad : List Char) (p : String × PyValue F) : List Char :=
  jsonString p.1 ++ ':' :: (pad ++ json pad p.2)

theorem jsonList_eq [PyRuntime F] (pad : List Char) (xs : List (PyValue F)) :
    jsonList pad xs = joined (json pad) pad xs := by
  induction xs with
  | nil => rfl
  | cons x xs ih =>
    cases xs with
    | nil => rfl
    | cons y ys => rw [jsonList, ih, joined]; exact List.cons_ne_nil y ys

theorem jsonDict_eq [PyRuntime F] (pad : List Char) (kvs : List (String × PyValue F)) :
    jsonDict pad kvs = joined (jsonMember pad) pad kvs := by
  induction kvs with
  | nil => rfl
  | cons p kvs ih =>
    cases kvs with
    | nil => rfl
    | cons q rest => rw [jsonDict, ih, joined, jsonMember]; exact List.cons_ne_nil q rest

theorem starts_number {cs : List Char} (h : Json.Number cs) {close : Char} (hclose : close ∈ [']', '\x7d', '\ufeff']) :
    Starts close cs := by
  obtain ⟨mns, d, tail, hminus, hd, rfl⟩ := number_front h
  simp only [List.mem_cons, List.not_mem_nil, or_false] at hminus hclose
  have hne : ∀ c : Char, c.isDigit = false → d ≠ c := by
    rintro c hc rfl
    exact Bool.false_ne_true (hc.symm.trans hd)
  rcases hminus with rfl | rfl
  · refine ⟨d, tail, rfl, ?_, ?_⟩
    · simp [isBlank, hne ' ' rfl, hne '\t' rfl, hne '\n' rfl, hne '\r' rfl]
    · rcases hclose with rfl | rfl | rfl
      · exact hne _ rfl
      · exact hne _ rfl
      · exact hne _ rfl
  · refine ⟨'-', d :: tail, rfl, rfl, ?_⟩
    rcases hclose with rfl | rfl | rfl <;> decide

variable [PyJson F]

theorem starts_json (pad : List Char) (v : PyValue F) (h : checkJson v = .ok ()) (close : Char)
    (hclose : close ∈ [']', '\x7d', '\ufeff']) : Starts close (json pad v) := by
  have hword : ∀ c cs, isBlank c = false → c ∉ [']', '\x7d', '\ufeff'] → Starts close (c :: cs) :=
    fun c cs hblank hne => ⟨c, cs, rfl, hblank, fun heq => hne (heq ▸ hclose)⟩
  cases v with
  | none => exact hword _ _ rfl (by decide)
  | bool b => cases b <;> exact hword _ _ rfl (by decide)
  | int n => exact starts_number (PyValue.number_textOfInt n) hclose
  | str s => exact hword _ _ rfl (by decide)
  | list xs => rw [json]; exact hword _ _ rfl (by decide)
  | dict kvs => rw [json]; exact hword _ _ rfl (by decide)
  | object name text => cases h
  | float x =>
    rw [json, jsonFloat]
    cases hx : PyRuntime.trunc x with
    | some n => exact starts_number (PyJson.number_repr x n hx) hclose
    | none =>
      dsimp only
      split
      · exact hword _ _ rfl (by decide)
      split
      · exact hword _ _ rfl (by decide)
      · exact hword _ _ rfl (by decide)

/-- The words of the floats that are no numbers of JSON. -/
theorem value_special [PyLoads F] {x : F} (hx : PyRuntime.trunc x = none) (fuel : Nat)
    (rest : List Char) :
    value (fuel + 1) (jsonFloat x ++ rest) = some (.float x, rest) := by
  have hspecial := PyLoads.repr_special x hx
  have hparse : ∀ {text}, PyRuntime.repr x = text → PyRuntime.parse text = some x :=
    fun h => h ▸ PyRuntime.parse_repr x
  rw [jsonFloat, hx]
  dsimp only
  split
  · rename_i hnan
    rw [if_pos hnan] at hspecial
    simp [value, wordOf, constants, hparse hspecial]
  rename_i hnan
  rw [if_neg hnan] at hspecial
  split
  · rename_i hlt
    rw [if_pos hlt] at hspecial
    simp [value, wordOf, constants, hparse hspecial]
  · rename_i hlt
    rw [if_neg hlt] at hspecial
    simp [value, wordOf, constants, hparse hspecial]

theorem value_number {cs rest : List Char} (h : Json.Number cs) (hrest : EndsNumber rest) (fuel : Nat) :
    value (F := F) (fuel + 1) (cs ++ rest) =
      if isWhole cs = true then (PyText.intOfText (String.ofList cs)).map fun n => (.int n, rest)
      else (PyRuntime.parse (String.ofList cs)).map fun x => (.float x, rest) := by
  have hword := wordOf_number (F := F) h rest
  rw [← number_append h hrest]
  obtain ⟨mns, d, tail, hminus, hd, rfl⟩ := number_front h
  have hne : ∀ c : Char, c.isDigit = false → d ≠ c := by
    rintro c hc rfl
    exact Bool.false_ne_true (hc.symm.trans hd)
  simp only [List.mem_cons, List.not_mem_nil, or_false] at hminus
  rcases hminus with rfl | rfl
  · rw [List.nil_append, List.cons_append] at hword ⊢
    rw [value, if_neg (hne _ rfl), if_neg (hne _ rfl), if_neg (hne _ rfl), hword]
  · rw [List.append_assoc, List.singleton_append, List.cons_append] at hword ⊢
    rw [value, if_neg (by decide), if_neg (by decide), if_neg (by decide), hword]

theorem endsNumber_of_mem {c : Char} {rest : List Char} (h : c ∈ [',', ']', '\x7d']) :
    EndsNumber (c :: rest) := by
  intro d hd
  obtain rfl := Option.some.inj hd
  simp only [List.mem_cons, List.not_mem_nil, or_false] at h
  rcases h with rfl | rfl | rfl <;> exact ⟨rfl, by decide⟩

theorem member_jsonMember {read : Reader (PyValue F)} (hpad : ∀ c ∈ pad, isBlank c = true)
    {p : String × PyValue F} {close : Char} (hstarts : Starts close (json pad p.2)) {rest : List Char}
    (hread : read (json pad p.2 ++ rest) = some (p.2, rest)) :
    member read (jsonMember pad p ++ rest) = some (p, rest) := by
  have hstring := string_jsonString p.1 (':' :: (pad ++ json pad p.2) ++ rest)
  have hquote : (jsonMember pad p ++ rest).head? = some '"' := rfl
  have htail : (jsonMember pad p ++ rest).tail =
      (jsonString p.1).tail ++ (':' :: (pad ++ json pad p.2) ++ rest) := by
    rw [jsonMember, List.append_assoc]
    rfl
  rw [member, if_pos hquote, htail, hstring]
  dsimp only
  rw [List.cons_append, skipBlanks_cons rfl, List.head?_cons, if_pos rfl, List.tail_cons,
    List.append_assoc, skipBlanks_append hpad, (hstarts.append rest).skipBlanks, hread]
  rfl

/-- A value is read up to its end; it takes no more steps than its text has characters. -/
theorem value_json [PyLoads F] (hpad : ∀ c ∈ pad, isBlank c = true) {fuel : Nat} (v : PyValue F)
    (h : checkJson v = .ok ()) (hkeyed : keyed v = true) (hfuel : (json pad v).length ≤ fuel)
    {rest : List Char} (hrest : EndsNumber rest) : value fuel (json pad v ++ rest) = some (v, rest) := by
  induction fuel generalizing v rest with
  | zero =>
    obtain ⟨c, tail, hcons, -⟩ := starts_json pad v h ']' (by decide)
    rw [hcons] at hfuel
    cases hfuel
  | succ fuel ih =>
    cases v with
    | none => simp [json, value, wordOf, constants]
    | bool b => cases b <;> simp [json, value, wordOf, constants]
    | int n =>
      rw [json, value_number (PyValue.number_textOfInt n) hrest, if_pos, String.ofList_toList,
        PyText.intOfText_textOfInt]
      · rfl
      · rw [isWhole, List.all_eq_true]
        intro c hc
        rcases PyText.textOfInt_chars hc with rfl | hd
        · rfl
        · rw [hd, Bool.or_true]
    | float x =>
      rw [json]
      cases hx : PyRuntime.trunc x with
      | none => exact value_special hx fuel rest
      | some n =>
        rw [jsonFloat, hx]
        dsimp only
        rw [value_number (PyJson.number_repr x n hx) hrest, PyLoads.isWhole_repr x n hx,
          if_neg Bool.false_ne_true, String.ofList_toList, PyRuntime.parse_repr]
        rfl
    | str s =>
      have hstring := string_jsonString s rest
      rw [json]
      change (string ((jsonString s).tail ++ rest)).map _ = _
      rw [hstring]
      rfl
    | object name text => cases h
    | list xs =>
      rw [json, jsonList_eq] at hfuel ⊢
      rw [List.length_cons, List.length_append, List.length_singleton] at hfuel
      have hcheck := PyValue.checkJsonList_eq_ok.mp h
      have hkeys := keyedList_iff.mp hkeyed
      have hstarts : ∀ y ∈ xs, Starts ']' (json pad y) := fun y hy =>
        starts_json pad y (hcheck y hy) ']' (by decide)
      have hcount := count_le_joined pad fun y hy => (hstarts y hy).ne_nil
      have hbracketed : bracketed (value fuel) ']' fuel (joined (json pad) pad xs ++ ']' :: rest) =
          some (xs, rest) := by
        refine bracketed_joined hpad rfl (by decide) hstarts (fun y hy c rest hc => ?_) (by omega) rest
        have hlength := length_le_joined (json pad) pad hy
        refine ih y (hcheck y hy) (hkeys y hy) (by omega) (endsNumber_of_mem ?_)
        rcases hc with rfl | rfl <;> decide
      rw [List.cons_append, List.append_assoc, List.singleton_append, value, if_neg (by decide),
        if_pos rfl, hbracketed]
      rfl
    | dict kvs =>
      rw [json, jsonDict_eq] at hfuel ⊢
      rw [List.length_cons, List.length_append, List.length_singleton] at hfuel
      have hcheck := PyValue.checkJsonDict_eq_ok.mp h
      obtain ⟨hnodup, hkeys⟩ := keyed_dict_iff.mp hkeyed
      have hstarts : ∀ p ∈ kvs, Starts '\x7d' (jsonMember pad p) := fun p _ =>
        ⟨'"', _, rfl, rfl, by decide⟩
      have hcount := count_le_joined pad fun p hp => (hstarts p hp).ne_nil
      have hbracketed : bracketed (member (value fuel)) '\x7d' fuel
          (joined (jsonMember pad) pad kvs ++ '\x7d' :: rest) = some (kvs, rest) := by
        refine bracketed_joined hpad rfl (by decide) hstarts (fun p hp c rest hc => ?_) (by omega) rest
        have hlength := length_le_joined (jsonMember pad) pad hp
        have hvalue : value fuel (json pad p.2 ++ c :: rest) = some (p.2, c :: rest) := by
          refine ih p.2 (hcheck p hp) (hkeys p hp) ?_ (endsNumber_of_mem ?_)
          · rw [jsonMember, List.length_append, List.length_cons, List.length_append] at hlength
            omega
          · rcases hc with rfl | rfl <;> decide
        exact member_jsonMember hpad (starts_json pad p.2 (hcheck p hp) '\x7d' (by decide)) hvalue
      rw [List.cons_append, List.append_assoc, List.singleton_append, value, if_neg (by decide),
        if_neg (by decide), if_pos rfl, hbracketed, Option.map_some]
      dsimp only
      rw [OrderedDict.entries_ofList hnodup]

/-- What `json.dumps` has written gives its value back. -/
theorem loads_dumps [PyLoads F] {pad text : String} {v : PyValue F}
    (hpad : ∀ c ∈ pad.toList, isBlank c = true)
    (hkeyed : keyed v = true) (h : PyValue.dumps pad v = .ok text) : loads text = some v := by
  rw [PyValue.dumps, bind_eq_ok] at h
  obtain ⟨_, hcheck, htext⟩ := h
  obtain rfl : String.ofList (json pad.toList v) = text := Except.ok.inj htext
  have hstarts := starts_json pad.toList v hcheck '\ufeff' (by decide)
  have hend : EndsNumber [] := fun _ hc => absurd hc (Option.some_ne_none _).symm
  have hvalue := value_json hpad v hcheck hkeyed (Nat.le_succ _) hend
  rw [List.append_nil] at hvalue
  rw [loads, String.toList_ofList, hstarts.skipBlanks, hvalue, if_neg]
  · exact if_pos rfl
  · obtain ⟨c, tail, hcons, -, hne⟩ := hstarts
    rw [hcons]
    exact fun hbom => hne (Option.some.inj hbom)

end JsonReader

namespace ClassFloat

instance instPyLoads : PyLoads ClassFloat where
  isWhole_repr x n h := by
    cases x with
    | nan => cases h
    | infinity negative => cases h
    | finite x =>
      have hpoint : '.' ∈ (repr (finite x)).toList := by
        rw [repr, WholeFloat.repr, String.toList_append]
        exact List.mem_append_right _ (by decide)
      refine Bool.eq_false_iff.mpr fun hall => ?_
      exact absurd (List.all_eq_true.mp hall _ hpoint) (by decide)
  repr_special x h := by
    cases x with
    | finite x => cases h
    | infinity negative => cases negative <;> rfl
    | nan => rfl

end ClassFloat
