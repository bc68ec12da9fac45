import Playbook.Proofs.FloatText.Layout
import Playbook.Proofs.Grammar.Value
import Playbook.Proofs.Overlay

/-!
# What a task keeps of its configuration

The keys of a mapping are nodes, those of a JSON object are texts. A configuration keeps all its
entries and items, however deep they are nested, exactly if nowhere two keys of one mapping get the
same text. For keys that are different nodes this happens in one way only: one is a string, and the
other a boolean or a number that is written so.
-/

namespace Playbook

namespace Entries

variable {α : Type} {key : String} {entries : List (String × α)}

/-! ## Objects made of entries -/

theorem ofList_eq (entries : List (String × α)) :
    ofList entries = (SortedMap.ofList entries).entries := by
  have hfold (map : SortedMap α) : entries.foldl (fun map entry ↦ insert entry.1 entry.2 map)
      map.entries = (map.insertMany entries).entries := by
    induction entries generalizing map with
    | nil => rfl
    | cons entry rest ih => exact ih (map.insert entry.1 entry.2)
  exact hfold .empty

theorem lookup_ofList (key : String) (entries : List (String × α)) :
    lookup key (ofList entries) = lookup key entries.reverse := by
  have hempty : (SortedMap.empty : SortedMap α).get? key = none := rfl
  rw [ofList_eq]
  exact (SortedMap.get?_insertMany .empty entries key).trans (by rw [hempty, Option.or_none])

theorem isSome_lookup : (lookup key entries).isSome = true ↔ key ∈ entries.map (·.1) := by
  induction entries with
  | nil => simp [lookup]
  | cons entry rest ih =>
    rw [lookup, List.map_cons, List.mem_cons, ← ih]
    split <;> simp [*]

theorem mem_keys_ofList : key ∈ (ofList entries).map (·.1) ↔ key ∈ entries.map (·.1) := by
  rw [← isSome_lookup, lookup_ofList, isSome_lookup, List.map_reverse, List.mem_reverse]

theorem nodup_keys_ofList (entries : List (String × α)) : ((ofList entries).map (·.1)).Nodup := by
  rw [ofList_eq, List.Nodup, List.pairwise_map]
  refine (SortedMap.ofList entries).sorted.imp fun hlt heq ↦ ?_
  exact String.lt_irrefl _ (heq ▸ hlt)

/-- No entry is lost exactly if no two have the same key. -/
theorem length_ofList (entries : List (String × α)) :
    (ofList entries).length = entries.length ↔ (entries.map (·.1)).Nodup := by
  have hsame : ((ofList entries).map (·.1)).toFinset = (entries.map (·.1)).toFinset := by
    ext key
    rw [List.mem_toFinset, List.mem_toFinset, mem_keys_ofList]
  have hlength : (ofList entries).length = (entries.map (·.1)).toFinset.card := by
    rw [← hsame, List.toFinset_card_of_nodup (nodup_keys_ofList entries), List.length_map]
  have hkeys : (entries.map (·.1)).length = entries.length := List.length_map _
  rw [hlength, ← hkeys]
  exact Multiset.toFinset_card_eq_card_iff_nodup

theorem lookup_of_nodup {value : α} (hnodup : (entries.map (·.1)).Nodup)
    (hmem : (key, value) ∈ entries) : lookup key entries = some value := by
  induction entries with
  | nil => cases hmem
  | cons entry rest ih =>
    obtain ⟨hfirst, hrest⟩ := List.nodup_cons.mp hnodup
    rw [lookup]
    cases List.mem_cons.mp hmem with
    | inl hentry => rw [← hentry, if_pos rfl]
    | inr hlater =>
      have hother : key ≠ entry.1 := by
        rintro rfl
        exact hfirst (List.mem_map_of_mem (f := (·.1)) hlater)
      rw [if_neg hother, ih hrest hlater]

/-- Under different keys every entry is found with its own value. -/
theorem lookup_ofList_of_mem {value : α} (hnodup : (entries.map (·.1)).Nodup)
    (hmem : (key, value) ∈ entries) : lookup key (ofList entries) = some value := by
  rw [lookup_ofList]
  apply lookup_of_nodup
  · rw [List.map_reverse]
    exact List.nodup_reverse.mpr hnodup
  · exact List.mem_reverse.mpr hmem

end Entries

namespace Yaml.Node

open Decimal (Layout)
open Outline (map_eq_ok)

/-! ## Nothing is dropped -/

mutual

/-- The value has as many fields and items as the node, at every place of it, and what the node has
under a key or at a position stands there. A float that is not finite stands there as null, a tag as
the key of its content. -/
def Keeps : Node → Json → Prop
  | .seq items, value => ∃ values, value = .arr values ∧ KeepsItems items values
  | .map entries, value =>
    ∃ fields, value = .obj fields ∧ fields.length = entries.length ∧ KeepsEntries fields entries
  | .tagged tag content, value => ∃ inner, value = .obj [(tagText tag, inner)] ∧ Keeps content inner
  | .null, value => value = .null
  | .bool kept, value => value = .bool kept
  | .int kept, value => value = .int kept
  | .float kept, value => value = if kept.isFinite then .float kept else .null
  | .str kept, value => value = .str kept

def KeepsItems : List Node → List Json → Prop
  | [], values => values = []
  | node :: rest, values =>
    ∃ value others, values = value :: others ∧ Keeps node value ∧ KeepsItems rest others

def KeepsEntries (fields : List (String × Json)) : List (Node × Node) → Prop
  | [] => True
  | (key, node) :: rest =>
    (∃ text value, key.keyText = .ok text ∧ Entries.lookup text fields = some value ∧
      Keeps node value) ∧ KeepsEntries fields rest

end

mutual

/-- In every mapping that the node has anywhere, any two keys are apart. -/
def Throughout (apart : Node → Node → Prop) : Node → Prop
  | .seq items => ThroughoutItems apart items
  | .map entries =>
    (entries.Pairwise fun first second ↦ apart first.1 second.1) ∧ ThroughoutEntries apart entries
  | .tagged _ content => Throughout apart content
  | .null | .bool _ | .int _ | .float _ | .str _ => True

def ThroughoutItems (apart : Node → Node → Prop) : List Node → Prop
  | [] => True
  | node :: rest => Throughout apart node ∧ ThroughoutItems apart rest

def ThroughoutEntries (apart : Node → Node → Prop) : List (Node × Node) → Prop
  | [] => True
  | (_, node) :: rest => Throughout apart node ∧ ThroughoutEntries apart rest

end

section congr

variable {known apart apart' : Node → Node → Prop}

mutual

/-- What is known of all keys may be used in saying which keys are apart. -/
theorem throughout_congr (h : ∀ first second, known first second →
    (apart first second ↔ apart' first second)) : (node : Node) → node.Throughout known →
    (node.Throughout apart ↔ node.Throughout apart')
  | .seq items, hknown => throughoutItems_congr h items hknown
  | .map entries, ⟨hkeys, hvalues⟩ => by
    refine and_congr ⟨hkeys.imp₂ fun _ _ hk ↦ (h _ _ hk).mp, hkeys.imp₂ fun _ _ hk ↦ (h _ _ hk).mpr⟩
      (throughoutEntries_congr h entries hvalues)
  | .tagged _ content, hknown => throughout_congr h content hknown
  | .null, _ | .bool _, _ | .int _, _ | .float _, _ | .str _, _ => Iff.rfl

theorem throughoutItems_congr (h : ∀ first second, known first second →
    (apart first second ↔ apart' first second)) : (items : List Node) →
    ThroughoutItems known items → (ThroughoutItems apart items ↔ ThroughoutItems apart' items)
  | [], _ => Iff.rfl
  | node :: rest, ⟨hnode, hrest⟩ =>
    and_congr (throughout_congr h node hnode) (throughoutItems_congr h rest hrest)

theorem throughoutEntries_congr (h : ∀ first second, known first second →
    (apart first second ↔ apart' first second)) : (entries : List (Node × Node)) →
    ThroughoutEntries known entries →
    (ThroughoutEntries apart entries ↔ ThroughoutEntries apart' entries)
  | [], _ => Iff.rfl
  | (_, node) :: rest, ⟨hnode, hrest⟩ =>
    and_congr (throughout_congr h node hnode) (throughoutEntries_congr h rest hrest)

end

end congr

/-! ## Keys with one text -/

/-- Two keys have the same text. -/
def Coincide (first second : Node) : Prop :=
  ∃ text, first.keyText = .ok text ∧ second.keyText = .ok text

theorem keyTexts_of_entriesToJson {entries : List (Node × Node)} {fields : List (String × Json)}
    (h : entriesToJson entries = .ok fields) :
    entries.map (fun entry ↦ entry.1.keyText) = fields.map fun field ↦ .ok field.1 := by
  induction entries generalizing fields with
  | nil =>
    obtain rfl := Except.ok.inj h
    rfl
  | cons entry rest ih =>
    obtain ⟨key, value⟩ := entry
    rw [entriesToJson] at h
    split at h
    next => cases h
    next text hkey =>
      split at h
      next => cases h
      next kept hkept =>
        obtain ⟨others, hothers, rfl⟩ := map_eq_ok.mp h
        rw [List.map_cons, List.map_cons, ih hothers, hkey]

theorem length_of_entriesToJson {entries : List (Node × Node)} {fields : List (String × Json)}
    (h : entriesToJson entries = .ok fields) : fields.length = entries.length := by
  have hlength := congrArg List.length (keyTexts_of_entriesToJson h)
  rw [List.length_map, List.length_map] at hlength
  exact hlength.symm

/-- An object has a field for every entry exactly if no two keys coincide. -/
theorem length_ofList_entriesToJson {entries : List (Node × Node)}
    {fields : List (String × Json)} (h : entriesToJson entries = .ok fields) :
    (Entries.ofList fields).length = entries.length ↔
      entries.Pairwise fun first second ↦ ¬ Coincide first.1 second.1 := by
  have htexts := keyTexts_of_entriesToJson h
  have hkey {entry : Node × Node} (hmem : entry ∈ entries) :
      ∃ text, entry.1.keyText = .ok text := by
    have htext : entry.1.keyText ∈ fields.map fun field ↦ .ok field.1 :=
      htexts ▸ List.mem_map_of_mem hmem
    obtain ⟨field, -, hfield⟩ := List.mem_map.mp htext
    exact ⟨field.1, hfield.symm⟩
  have hok : Function.Injective (Except.ok : String → Except KeyFault String) :=
    fun _ _ ↦ Except.ok.inj
  calc (Entries.ofList fields).length = entries.length
    _ ↔ (fields.map (·.1)).Nodup := by rw [← length_of_entriesToJson h, Entries.length_ofList]
    _ ↔ ((fields.map (·.1)).map Except.ok).Nodup := (List.nodup_map_iff hok).symm
    _ ↔ (entries.map fun entry ↦ entry.1.keyText).Nodup := by
      rw [List.map_map, htexts]
      rfl
    _ ↔ entries.Pairwise fun first second ↦ ¬ Coincide first.1 second.1 := by
      rw [List.Nodup, List.pairwise_map]
      refine List.Pairwise.iff_of_mem fun {first second} hfirst hsecond ↦ not_congr ?_
      obtain ⟨text, htext⟩ := hkey hfirst
      constructor
      · exact fun heq ↦ ⟨text, htext, heq ▸ htext⟩
      · rintro ⟨shared, hone, hother⟩
        rw [hone, hother]

mutual

/-- The value of a node keeps it exactly if nowhere two of its keys coincide. -/
theorem keeps_iff : (node : Node) → {value : Json} → node.toJson = .ok value →
    (node.Keeps value ↔ node.Throughout fun first second ↦ ¬ Coincide first second)
  | .seq items, value, h => by
    rw [toJson] at h
    obtain ⟨values, hvalues, rfl⟩ := map_eq_ok.mp h
    rw [Keeps, Throughout, ← keepsItems_iff items hvalues]
    simp
  | .map entries, value, h => by
    rw [toJson] at h
    obtain ⟨fields, hfields, rfl⟩ := map_eq_ok.mp h
    have hkept (hlength : (Entries.ofList fields).length = entries.length) :
        KeepsEntries (Entries.ofList fields) entries ↔
          ThroughoutEntries (fun first second ↦ ¬ Coincide first second) entries := by
      have hnodup := (Entries.length_ofList fields).mp
        (hlength.trans (length_of_entriesToJson hfields).symm)
      exact keepsEntries_iff entries hfields fun _ hmem ↦ Entries.lookup_ofList_of_mem hnodup hmem
    rw [Keeps, Throughout, ← length_ofList_entriesToJson hfields, ← and_congr_right hkept]
    constructor
    · rintro ⟨_, hfields, hkeeps⟩
      obtain rfl := Json.obj.inj hfields
      exact hkeeps
    · exact fun hkeeps ↦ ⟨_, rfl, hkeeps⟩
  | .tagged tag content, value, h => by
    rw [toJson] at h
    obtain ⟨inner, hinner, rfl⟩ := map_eq_ok.mp h
    rw [Keeps, Throughout, ← keeps_iff content hinner]
    simp
  | .null, _, h | .bool _, _, h | .int _, _, h | .float _, _, h | .str _, _, h =>
    iff_of_true (Except.ok.inj h).symm trivial

theorem keepsItems_iff : (items : List Node) → {values : List Json} →
    itemsToJson items = .ok values →
    (KeepsItems items values ↔
      ThroughoutItems (fun first second ↦ ¬ Coincide first second) items)
  | [], values, h => iff_of_true (Except.ok.inj h).symm trivial
  | node :: rest, values, h => by
    rw [itemsToJson] at h
    split at h
    next => cases h
    next value hvalue =>
      obtain ⟨others, hothers, rfl⟩ := map_eq_ok.mp h
      rw [KeepsItems, ThroughoutItems, ← keeps_iff node hvalue, ← keepsItems_iff rest hothers]
      simp

theorem keepsEntries_iff {fields : List (String × Json)} : (entries : List (Node × Node)) →
    {own : List (String × Json)} → entriesToJson entries = .ok own →
    (∀ field ∈ own, Entries.lookup field.1 fields = some field.2) →
    (KeepsEntries fields entries ↔
      ThroughoutEntries (fun first second ↦ ¬ Coincide first second) entries)
  | [], own, h, _ => Iff.rfl
  | (key, node) :: rest, own, h, hfound => by
    rw [entriesToJson] at h
    split at h
    next => cases h
    next text hkey =>
      split at h
      next => cases h
      next value hvalue =>
        obtain ⟨others, hothers, rfl⟩ := map_eq_ok.mp h
        have hown := hfound (text, value) List.mem_cons_self
        have hrest := fun field hmem ↦ hfound field (List.mem_cons_of_mem _ hmem)
        rw [KeepsEntries, ThroughoutEntries, ← keeps_iff node hvalue,
          ← keepsEntries_iff rest hothers hrest]
        have hfirst : (∃ text value, key.keyText = .ok text ∧
            Entries.lookup text fields = some value ∧ node.Keeps value) ↔ node.Keeps value := by
          constructor
          · rintro ⟨text, value, hother, hlookup, hkeeps⟩
            obtain rfl := Except.ok.inj (hkey.symm.trans hother)
            obtain rfl := Option.some.inj (hown.symm.trans hlookup)
            exact hkeeps
          · exact fun hkeeps ↦ ⟨text, value, hkey, hown, hkeeps⟩
        rw [hfirst]

end

/-! ## Which different keys coincide -/

/-- The texts of booleans and numbers as keys. -/
inductive Spelled : Node → String → Prop where
  | bool (value : Bool) : Spelled (.bool value) (if value then "true" else "false")
  | int (n : Int) : Spelled (.int n) (toString n)
  | float {x : Float} (finite : x.isFinite = true) : Spelled (.float x) (Layout.json.text x)

/-- One key is a string, the other a boolean or a number that is written so. -/
def Clash (first second : Node) : Prop :=
  (∃ text, first = .str text ∧ Spelled second text) ∨
    ∃ text, second = .str text ∧ Spelled first text

theorem keyText_eq_ok {key : Node} {text : String} :
    key.keyText = .ok text ↔ key = .str text ∨ Spelled key text := by
  constructor
  · intro h
    cases key
    case str => exact .inl (congrArg str (Except.ok.inj h))
    case bool value => exact .inr (Except.ok.inj h ▸ .bool value)
    case int n => exact .inr (Except.ok.inj h ▸ .int n)
    case float x =>
      rw [keyText] at h
      split at h
      next finite => exact .inr (Except.ok.inj h ▸ .float finite)
      next => cases h
    all_goals cases h
  · rintro (rfl | (value | n | finite))
    · rfl
    · rfl
    · rfl
    · exact if_pos finite

/-! ### Texts of booleans and numbers -/

theorem mark_of_float {x : Float} (finite : x.isFinite = true) :
    (∃ digit ∈ (Layout.json.text x).toList, digit.isDigit = true) ∧
      ∃ mark ∈ (Layout.json.text x).toList, mark = '.' ∨ mark = 'e' := by
  obtain ⟨whole, mark, rest, htext, hsome, hwhole, hmark⟩ :=
    (Layout.json.writes_finite (Decimal.shortest x)).front
  obtain ⟨digit, more, rfl⟩ := List.exists_cons_of_ne_nil hsome
  rw [Layout.text_of_finite Layout.json finite, String.toList_append, htext]
  constructor
  · exact ⟨digit, List.mem_append_right _ List.mem_cons_self, hwhole digit List.mem_cons_self⟩
  · exact ⟨mark, List.mem_append_right _ (List.mem_append_right _ List.mem_cons_self), hmark⟩

theorem no_mark_of_int {n : Int} {c : Char} (hmem : c ∈ (toString n).toList) :
    ¬ (c = '.' ∨ c = 'e') := by
  have hspelled : (toString n).toList = Json.spelled (.int n) := rfl
  have hdigit {m : Nat} (hmem : c ∈ Nat.toDigits 10 m) : ¬ (c = '.' ∨ c = 'e') := by
    have hc := Decimal.isDigit_of_mem_toDigits c hmem
    rintro (rfl | rfl) <;> cases hc
  rw [hspelled] at hmem
  by_cases hsign : 0 ≤ n
  · rw [Json.spelled_int_of_nonneg hsign] at hmem
    exact hdigit hmem
  · rw [Json.spelled_int_of_neg hsign] at hmem
    cases List.mem_cons.mp hmem with
    | inl hminus => rw [hminus]; decide
    | inr hrest => exact hdigit hrest

theorem bool_text_ne_int (value : Bool) (n : Int) :
    (if value then "true" else "false") ≠ toString n := by
  intro heq
  have hmem : 'e' ∈ (toString n).toList := by
    rw [← heq]
    cases value <;> decide
  exact no_mark_of_int hmem (.inr rfl)

theorem bool_text_ne_float (value : Bool) {x : Float} (finite : x.isFinite = true) :
    (if value then "true" else "false") ≠ Layout.json.text x := by
  intro heq
  obtain ⟨⟨digit, hmem, hdigit⟩, -⟩ := mark_of_float finite
  have hletters : ((if value then "true" else "false").toList.all fun c ↦ !c.isDigit) = true := by
    cases value <;> rfl
  have hletter := List.all_eq_true.mp hletters digit (heq ▸ hmem)
  rw [hdigit] at hletter
  cases hletter

theorem int_text_ne_float (n : Int) {x : Float} (finite : x.isFinite = true) :
    toString n ≠ Layout.json.text x := by
  intro heq
  obtain ⟨-, mark, hmem, hmark⟩ := mark_of_float finite
  exact no_mark_of_int (heq ▸ hmem) hmark

/-- A text belongs to one boolean or number at most. -/
theorem Spelled.unique {first second : Node} {text text' : String} (hfirst : Spelled first text)
    (hsecond : Spelled second text') (htext : text = text') : first = second := by
  cases hfirst with
  | bool value =>
    cases hsecond with
    | bool value' => cases value <;> cases value' <;> first | rfl | exact absurd htext (by decide)
    | int n => exact absurd htext (bool_text_ne_int value n)
    | float finite => exact absurd htext (bool_text_ne_float value finite)
  | int n =>
    cases hsecond with
    | bool value => exact absurd htext.symm (bool_text_ne_int value n)
    | int n' => rw [Int.repr_inj.mp htext]
    | float finite => exact absurd htext (int_text_ne_float n finite)
  | float finite =>
    cases hsecond with
    | bool value => exact absurd htext.symm (bool_text_ne_float value finite)
    | int n => exact absurd htext.symm (int_text_ne_float n finite)
    | float finite' => rw [Layout.json.text_injective finite finite' htext]

/-- A key with a text is the same as itself. -/
theorem same_self {key : Node} {text : String} (h : key.keyText = .ok text) :
    same key key = true := by
  cases keyText_eq_ok.mp h with
  | inl hstr =>
    rw [hstr, same]
    exact beq_self_eq_true text
  | inr hspelled =>
    cases hspelled with
    | bool value =>
      rw [same]
      exact beq_self_eq_true value
    | int n =>
      rw [same]
      exact beq_self_eq_true n
    | @float x finite =>
      have hnumber : x.isNaN = false := by
        rw [Decimal.isFinite_eq, Bool.and_eq_true, Bool.not_eq_true'] at finite
        exact finite.1
      have hreal : x ≠ .nan := by
        rw [Float.isNaN_eq_decide_eq_nan] at hnumber
        exact of_decide_eq_false hnumber
      rw [same, Float.beq_self_iff.mpr hreal, Bool.true_or]

/-- Different keys coincide exactly if a string stands against a boolean or a number. -/
theorem coincide_iff_clash {first second : Node} (h : same first second = false) :
    Coincide first second ↔ Clash first second := by
  constructor
  · rintro ⟨text, hfirst, hsecond⟩
    have hdiffer : first ≠ second := by
      rintro rfl
      rw [same_self hfirst] at h
      cases h
    cases keyText_eq_ok.mp hfirst with
    | inl hstr =>
      cases keyText_eq_ok.mp hsecond with
      | inl hother => exact absurd (hstr.trans hother.symm) hdiffer
      | inr hspelled => exact .inl ⟨text, hstr, hspelled⟩
    | inr hspelled =>
      cases keyText_eq_ok.mp hsecond with
      | inl hstr => exact .inr ⟨text, hstr, hspelled⟩
      | inr hother => exact absurd (hspelled.unique hother rfl) hdiffer
  · rintro (⟨text, rfl, hspelled⟩ | ⟨text, rfl, hspelled⟩)
    · exact ⟨text, rfl, keyText_eq_ok.mpr (.inr hspelled)⟩
    · exact ⟨text, keyText_eq_ok.mpr (.inr hspelled), rfl⟩

end Yaml.Node

namespace Document

open Yaml (Node)

theorem toJson_of_parseTask {location : Location} {kind : String} {node : Node} {task : Invocation}
    (h : parseTask location kind node = .ok task) : node.toJson = .ok (.obj task.config) := by
  unfold parseTask at h
  split at h
  next => cases h
  next =>
    split at h
    next config hvalue =>
      obtain rfl := Except.ok.inj h
      exact hvalue
    next => cases h
    next => cases h

/-- A task that is read from a mapping whose keys are different nodes, at every depth, keeps all
entries and items of it exactly if no string among the keys clashes with a boolean or number of the
same mapping. -/
theorem parseTask_keeps {location : Location} {kind : String} {node : Node} {task : Invocation}
    (h : parseTask location kind node = .ok task)
    (hdifferent : node.Throughout fun first second ↦ Node.same first second = false) :
    node.Keeps (.obj task.config) ↔
      node.Throughout fun first second ↦ ¬ Node.Clash first second :=
  calc node.Keeps (.obj task.config)
    _ ↔ node.Throughout fun first second ↦ ¬ Node.Coincide first second :=
      Node.keeps_iff node (toJson_of_parseTask h)
    _ ↔ node.Throughout fun first second ↦ ¬ Node.Clash first second :=
      Node.throughout_congr (fun _ _ hsame ↦ not_congr (Node.coincide_iff_clash hsame)) node
        hdifferent

/-- Entries of all kinds of keys, some of them nested. -/
def mixed : Node :=
  .map [(.str "1", .seq [.int 1, .map [(.bool true, .null), (.str "yes", .str "no")]]),
    (.int 2, .str "b"), (.str "path", .map [])]

theorem parseTask_keeps_mixed : ∃ task,
    parseTask .document "set_fact" mixed = .ok task ∧
      (mixed.Throughout fun first second ↦ Node.same first second = false) ∧
      (mixed.Keeps (.obj task.config) ↔
        mixed.Throughout fun first second ↦ ¬ Node.Clash first second) := by
  have hdifferent : mixed.Throughout fun first second ↦ Node.same first second = false := by
    simp [mixed, Node.Throughout, Node.ThroughoutItems, Node.ThroughoutEntries, Node.same]
  have htask : parseTask .document "set_fact" mixed = .ok _ := rfl
  exact ⟨_, htask, hdifferent, parseTask_keeps htask hdifferent⟩

/-- Of an integer and the string with its digits only the later one is kept. -/
theorem parseTask_clashing : ∃ task,
    parseTask .document "set_fact" (.map [(.int 1, .str "a"), (.str "1", .str "b")]) = .ok task ∧
      Node.same (.int 1) (.str "1") = false ∧ task.config = [("1", .str "b")] ∧
      ¬ (Node.map [(.int 1, .str "a"), (.str "1", .str "b")]).Keeps (.obj task.config) := by
  refine ⟨_, rfl, rfl, rfl, ?_⟩
  rintro ⟨fields, hfields, hlength, -⟩
  obtain rfl := Json.obj.inj hfields
  cases hlength

end Document

end Playbook
