import Mathlib.Data.List.Induction
import Mathlib.Data.List.TakeWhile
import Playbook.CommandLine.Basic
import Playbook.Proofs.ObjectKeys
import Playbook.Proofs.Overlay

/-!
# The facts that a run starts with

Settings are put over the object one after another, so a fact has the value of the last setting with
its name, or else the one that the object has. A setting names its fact up to its first equals sign.
What follows is JSON if the reader accepts it and is a text as it stands if not. What has no equals
sign sets nothing.
-/

namespace Playbook.CommandLine

/-! ## Settings -/

/-- An argument assigns a text to a name, which ends before its first equals sign. -/
def Assigns (argument name text : String) : Prop :=
  argument = name ++ "=" ++ text ∧ '=' ∉ name.toList

/-- An argument assigns something to a name. -/
def Names (name argument : String) : Prop :=
  name.toList ++ ['='] <+: argument.toList ∧ '=' ∉ name.toList

instance (name argument : String) : Decidable (Names name argument) :=
  inferInstanceAs (Decidable (_ ∧ _))

/-- What a text stands for: the JSON value that it is the text of, or else itself. -/
inductive Means (text : String) : Json → Prop where
  | json {value : Json} : Json.parse text = .ok value → Means text value
  | plain : (∀ value, Json.parse text ≠ .ok value) → Means text (.str text)

variable {argument name key text : String} {value : Json} {settings : List String}

theorem assigns_iff :
    Assigns argument name text ↔
      argument.toList = name.toList ++ '=' :: text.toList ∧ '=' ∉ name.toList := by
  rw [Assigns, ← String.toList_inj]
  simp

theorem names_iff : Names name argument ↔ ∃ text, Assigns argument name text := by
  constructor
  · rintro ⟨⟨rest, hrest⟩, hname⟩
    refine ⟨String.ofList rest, assigns_iff.mpr ⟨?_, hname⟩⟩
    rw [← hrest, String.toList_ofList, List.append_assoc, List.singleton_append]
  · rintro ⟨text, h⟩
    obtain ⟨hargument, hname⟩ := assigns_iff.mp h
    exact ⟨⟨text.toList, by rw [hargument, List.append_assoc, List.singleton_append]⟩, hname⟩

theorem exists_assigns (h : '=' ∈ argument.toList) : ∃ name text, Assigns argument name text := by
  obtain ⟨front, back, hparts, hfront⟩ := List.eq_append_cons_of_mem h
  refine ⟨String.ofList front, String.ofList back, assigns_iff.mpr ?_⟩
  rw [String.toList_ofList, String.toList_ofList]
  exact ⟨hparts, hfront⟩

theorem exists_means (text : String) : ∃ value, Means text value := by
  cases h : Json.parse text with
  | ok value => exact ⟨value, .json h⟩
  | error message => exact ⟨.str text, .plain fun value hvalue ↦ by simp [h] at hvalue⟩

theorem setting?_of_assigns (h : Assigns argument name text) (hvalue : Means text value) :
    setting? argument = some (name, value) := by
  obtain ⟨hargument, hname⟩ := assigns_iff.mp h
  have hbefore : argument.toList.takeWhile (· != '=') = name.toList := by
    rw [hargument, List.takeWhile_append_of_pos, List.takeWhile_cons_of_neg, List.append_nil]
    · decide
    · intro c hc
      simpa using fun heq : c = '=' ↦ hname (heq ▸ hc)
  have hafter : argument.toList.drop name.toList.length = '=' :: text.toList := by
    rw [hargument, List.drop_left]
  rw [setting?]
  simp only [hbefore, hafter, String.ofList_toList]
  cases hvalue with
  | json hparse => rw [hparse]
  | plain hparse =>
    cases htext : Json.parse text with
    | ok value => exact absurd htext (hparse value)
    | error message => rfl

theorem setting?_eq_none (h : '=' ∉ argument.toList) : setting? argument = none := by
  have hbefore : argument.toList.takeWhile (· != '=') = argument.toList :=
    List.takeWhile_eq_self_iff.mpr fun c hc ↦ by simpa using fun heq : c = '=' ↦ h (heq ▸ hc)
  rw [setting?]
  simp only [hbefore, List.drop_length]

theorem setting?_eq_some_iff :
    setting? argument = some (name, value) ↔
      ∃ text, Assigns argument name text ∧ Means text value := by
  constructor
  · intro h
    by_cases hmem : '=' ∈ argument.toList
    · obtain ⟨found, text, hassigns⟩ := exists_assigns hmem
      obtain ⟨meaning, hmeaning⟩ := exists_means text
      obtain ⟨rfl, rfl⟩ := Prod.mk.inj
        (Option.some.inj ((setting?_of_assigns hassigns hmeaning).symm.trans h))
      exact ⟨text, hassigns, hmeaning⟩
    · rw [setting?_eq_none hmem] at h
      cases h
  · rintro ⟨text, hassigns, hmeaning⟩
    exact setting?_of_assigns hassigns hmeaning

/-! ## The last setting of a name -/

/-- The last argument that assigns to the key gives it the value. -/
def LastSets (settings : List String) (key : String) (value : Json) : Prop :=
  ∃ front argument back text, settings = front ++ argument :: back ∧
    Assigns argument key text ∧ Means text value ∧ ∀ later ∈ back, ¬ Names key later

/-- The value that is looked for in the settings from the last to the first. -/
def latest? (key : String) (settings : List String) : Option Json :=
  Entries.lookup key (settings.filterMap setting?).reverse

theorem latest?_append (key : String) (front back : List String) :
    latest? key (front ++ back) = (latest? key back).or (latest? key front) := by
  rw [latest?, List.filterMap_append, List.reverse_append, Entries.lookup_append]
  rfl

theorem latest?_eq_none (h : ∀ argument ∈ settings, ¬ Names key argument) :
    latest? key settings = none := by
  refine Entries.lookup_eq_none fun entry hentry heq ↦ ?_
  obtain ⟨argument, hmem, hsetting⟩ := List.mem_filterMap.mp (List.mem_reverse.mp hentry)
  obtain ⟨text, hassigns, -⟩ := setting?_eq_some_iff.mp hsetting
  exact h argument hmem (heq ▸ names_iff.mpr ⟨text, hassigns⟩)

theorem latest?_singleton (h : Assigns argument key text) (hvalue : Means text value) :
    latest? key [argument] = some value := by
  rw [latest?, List.filterMap_cons_some (setting?_of_assigns h hvalue)]
  exact if_pos rfl

theorem latest?_of_lastSets (h : LastSets settings key value) :
    latest? key settings = some value := by
  obtain ⟨front, argument, back, text, rfl, hassigns, hvalue, hlater⟩ := h
  rw [← List.singleton_append, latest?_append, latest?_append, latest?_eq_none hlater,
    latest?_singleton hassigns hvalue]
  rfl

/-- Either no argument assigns to a key or one of those that do is the last. -/
theorem unnamed_or_lastSets (key : String) (settings : List String) :
    (∀ argument ∈ settings, ¬ Names key argument) ∨ ∃ value, LastSets settings key value := by
  -- The induction takes the last argument off first, since that is the one that may decide.
  induction settings using List.reverseRecOn with
  | nil => exact .inl fun argument hmem ↦ absurd hmem List.not_mem_nil
  | append_singleton front last ih =>
    by_cases hlast : Names key last
    · obtain ⟨text, hassigns⟩ := names_iff.mp hlast
      obtain ⟨value, hvalue⟩ := exists_means text
      exact .inr ⟨value, front, last, [], text, rfl, hassigns, hvalue,
        fun later hmem ↦ absurd hmem List.not_mem_nil⟩
    · rcases ih with hnone | ⟨value, before, argument, back, text, rfl, hassigns, hvalue, hlater⟩
      · refine .inl fun argument hmem ↦ ?_
        rcases List.mem_append.mp hmem with hmem | hmem
        · exact hnone argument hmem
        · rwa [List.mem_singleton.mp hmem]
      · refine .inr ⟨value, before, argument, back ++ [last], text, by simp, hassigns, hvalue,
          fun later hmem ↦ ?_⟩
        rcases List.mem_append.mp hmem with hmem | hmem
        · exact hlater later hmem
        · rwa [List.mem_singleton.mp hmem]

theorem latest?_eq_some_iff : latest? key settings = some value ↔ LastSets settings key value := by
  refine ⟨fun h ↦ ?_, latest?_of_lastSets⟩
  rcases unnamed_or_lastSets key settings with hnone | ⟨found, hlast⟩
  · rw [latest?_eq_none hnone] at h
    cases h
  · rw [latest?_of_lastSets hlast] at h
    exact Option.some.inj h ▸ hlast

theorem latest?_eq_none_iff :
    latest? key settings = none ↔ ∀ argument ∈ settings, ¬ Names key argument := by
  refine ⟨fun h ↦ ?_, latest?_eq_none⟩
  rcases unnamed_or_lastSets key settings with hnone | ⟨value, hlast⟩
  · exact hnone
  · rw [latest?_of_lastSets hlast] at h
    cases h

/-- Only the arguments that assign to a key matter to it. -/
theorem latest?_filter (key : String) (settings : List String) :
    latest? key (settings.filter (Names key)) = latest? key settings := by
  induction settings using List.reverseRecOn with
  | nil => rfl
  | append_singleton front last ih =>
    rw [List.filter_append, latest?_append, latest?_append, ih]
    by_cases hlast : Names key last
    · rw [List.filter_cons_of_pos (by simpa using hlast), List.filter_nil]
    · have hnone : latest? key [last] = none := latest?_eq_none fun argument hmem ↦ by
        rwa [List.mem_singleton.mp hmem]
      rw [List.filter_cons_of_neg (by simpa using hlast), List.filter_nil, hnone]
      rfl

/-! ## The facts -/

/-- An object is given, and its text is not that of an object. -/
def Refused (object : Option String) : Prop :=
  ∃ text, object = some text ∧ ∀ fields, Json.parse text ≠ .ok (.obj fields)

/-- The object is given and has the value under the key. -/
def ObjectHas (object : Option String) (key : String) (value : Json) : Prop :=
  ∃ text fields, object = some text ∧ Json.parse text = .ok (.obj fields) ∧
    (Json.obj fields).field? key = some value

theorem initialFacts_refused {object : Option String} (h : Refused object) :
    ∃ failure, ∀ settings, initialFacts object settings = .error failure := by
  obtain ⟨text, rfl, hnone⟩ := h
  cases hparse : Json.parse text with
  | error message => exact ⟨_, fun settings ↦ by simp only [initialFacts, hparse]; rfl⟩
  | ok read =>
    cases read with
    | obj fields => exact absurd hparse (hnone fields)
    | _ => exact ⟨_, fun settings ↦ by simp only [initialFacts, hparse]; rfl⟩

/-- The settings are put over what the object has. -/
theorem initialFacts_started {object : Option String} (h : ¬ Refused object) :
    ∃ start : Facts, (∀ key value, start.get? key = some value ↔ ObjectHas object key value) ∧
      ∀ settings, initialFacts object settings =
        .ok (start.insertMany (settings.filterMap setting?)) := by
  cases object with
  | none =>
    refine ⟨∅, fun key value ↦ iff_of_false (fun h ↦ ?_) fun ⟨text, fields, h, _⟩ ↦ ?_,
      fun settings ↦ rfl⟩
    · cases h
    · cases h
  | some text =>
    obtain ⟨fields, hparse⟩ : ∃ fields, Json.parse text = .ok (.obj fields) := by
      by_contra hnone
      exact h ⟨text, rfl, not_exists.mp hnone⟩
    refine ⟨SortedMap.ofList fields, fun key value ↦ ?_, fun settings ↦ by
      simp only [initialFacts, hparse]; rfl⟩
    have hlookup : (SortedMap.ofList fields).get? key = Entries.lookup key fields := by
      rw [SortedMap.ofList, SortedMap.get?_insertMany,
        (Json.sorted_of_parse hparse).lookup_reverse]
      exact Option.or_none
    rw [hlookup]
    constructor
    · exact fun hvalue ↦ ⟨text, fields, rfl, hparse, hvalue⟩
    · rintro ⟨same, found, hsame, hfound, hvalue⟩
      obtain rfl := Option.some.inj hsame
      rw [hparse] at hfound
      obtain rfl := Json.obj.inj (Except.ok.inj hfound)
      exact hvalue

theorem initialFacts_error_iff (object : Option String) (settings : List String) :
    (∃ failure, initialFacts object settings = .error failure) ↔ Refused object := by
  refine ⟨fun ⟨failure, hfailure⟩ ↦ ?_, fun h ↦ ?_⟩
  · by_contra h
    obtain ⟨start, -, hstart⟩ := initialFacts_started h
    rw [hstart] at hfailure
    cases hfailure
  · obtain ⟨failure, hfailure⟩ := initialFacts_refused h
    exact ⟨failure, hfailure settings⟩

/-- A fact has the value of its last setting, or else the one that the object has. -/
theorem get?_of_initialFacts {object : Option String} {facts : Facts}
    (h : initialFacts object settings = .ok facts) :
    facts.get? key = some value ↔ LastSets settings key value ∨
      (∀ argument ∈ settings, ¬ Names key argument) ∧ ObjectHas object key value := by
  have hnot : ¬ Refused object := fun hrefused ↦ by
    obtain ⟨failure, hfailure⟩ := initialFacts_refused hrefused
    rw [hfailure] at h
    cases h
  obtain ⟨start, hhas, hstart⟩ := initialFacts_started hnot
  obtain rfl := Except.ok.inj ((hstart settings).symm.trans h)
  have hget : (start.insertMany (settings.filterMap setting?)).get? key =
      (latest? key settings).or (start.get? key) := SortedMap.get?_insertMany ..
  rw [hget, Option.or_eq_some_iff, latest?_eq_some_iff, latest?_eq_none_iff, hhas]

/-- The settings of each key among themselves are all that counts. -/
theorem initialFacts_congr (object : Option String) {other : List String}
    (h : ∀ key, other.filter (Names key) = settings.filter (Names key)) :
    initialFacts object other = initialFacts object settings := by
  by_cases hrefused : Refused object
  · obtain ⟨failure, hfailure⟩ := initialFacts_refused hrefused
    rw [hfailure, hfailure]
  · obtain ⟨start, -, hstart⟩ := initialFacts_started hrefused
    rw [hstart, hstart]
    refine congrArg Except.ok (SortedMap.ext_get? fun key ↦ ?_)
    have hlatest : latest? key other = latest? key settings := by
      rw [← latest?_filter, h, latest?_filter]
    rw [SortedMap.get?_insertMany, SortedMap.get?_insertMany]
    exact congrArg (Option.or · (start.get? key)) hlatest

theorem Names.mem (h : Names name argument) : '=' ∈ argument.toList := by
  obtain ⟨text, hassigns⟩ := names_iff.mp h
  rw [(assigns_iff.mp hassigns).1]
  simp

/-- The facts that a run starts with: there are none only if the object is refused; the last setting
of a key wins, over the object as well; what assigns nothing does not count; and settings of
different keys can change places. -/
theorem initialFacts_lastWins (object : Option String) (settings : List String) :
    ((∃ failure, initialFacts object settings = .error failure) ↔ Refused object) ∧
      (∀ facts, initialFacts object settings = .ok facts → ∀ key value,
        facts.get? key = some value ↔ LastSets settings key value ∨
          (∀ argument ∈ settings, ¬ Names key argument) ∧ ObjectHas object key value) ∧
      initialFacts object (settings.filter ('=' ∈ ·.toList)) = initialFacts object settings ∧
      ∀ other : List String,
        (∀ key, other.filter (Names key) = settings.filter (Names key)) →
          initialFacts object other = initialFacts object settings := by
  refine ⟨initialFacts_error_iff object settings, fun facts h key value ↦ get?_of_initialFacts h,
    initialFacts_congr object fun key ↦ ?_, fun other ↦ initialFacts_congr object⟩
  rw [List.filter_filter]
  refine List.filter_congr fun argument _ ↦ ?_
  simpa using Names.mem

/-- Of three settings of one key the last counts, although it is no JSON text. -/
theorem initialFacts_lastWins_repeated :
    let object := some "\x7b\"env\":\"dev\",\"kept\":1\x7d"
    let settings := ["n=1", "env=a=b", "skipped", "n=[2]", "n=01"]
    ∃ facts, initialFacts object settings = .ok facts ∧
      facts.get? "n" = some (.str "01") ∧ facts.get? "env" = some (.str "a=b") ∧
      facts.get? "kept" = some (.int 1) := by
  intro object settings
  obtain ⟨hfails, hget, -, -⟩ := initialFacts_lastWins object settings
  let fields : List (String × Json) := [("env", .str "dev"), ("kept", .int 1)]
  have hparse : Json.parse "\x7b\"env\":\"dev\",\"kept\":1\x7d" = .ok (.obj fields) :=
    Json.parse_compact (.obj fields) (by decide) (by decide)
  have hplain : ∀ value, Json.parse "01" ≠ .ok value := nofun
  have hequation : ∀ value, Json.parse "a=b" ≠ .ok value := nofun
  cases hfacts : initialFacts object settings with
  | error failure =>
    obtain ⟨text, hobject, hnone⟩ := hfails.mp ⟨failure, hfacts⟩
    obtain rfl := Option.some.inj hobject
    exact absurd hparse (hnone fields)
  | ok facts =>
    refine ⟨facts, rfl, ?_, ?_, ?_⟩
    · exact (hget facts hfacts "n" _).mpr (.inl ⟨["n=1", "env=a=b", "skipped", "n=[2]"], "n=01",
        [], "01", rfl, ⟨by decide, by decide⟩, .plain hplain, by decide⟩)
    · exact (hget facts hfacts "env" _).mpr (.inl ⟨["n=1"], "env=a=b",
        ["skipped", "n=[2]", "n=01"], "a=b", rfl, ⟨by decide, by decide⟩, .plain hequation,
        by decide⟩)
    · exact (hget facts hfacts "kept" _).mpr (.inr ⟨by decide, _, fields, rfl, hparse, rfl⟩)

end Playbook.CommandLine
