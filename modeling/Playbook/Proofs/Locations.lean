import Mathlib.Data.List.DropRight
import Playbook.CommandLine.Basic

/-!
# Where a playbook is found

Without a base directory a run starts from the directory of its file and asks for the file by its
name there. Directory and name together have the components of the file again, whatever slashes and
dots it is written with, except where the last component of a relative file leads upwards: such a
file has no name, so it is asked for as a whole, from a directory that is already its own.
-/

namespace Playbook

namespace FilePath

/-! ## Parts -/

theorem parts_eq_splitOn (text : List Char) : parts text = text.splitOn '/' := by
  have hfrom (part : List Char) :
      partsFrom part text = text.splitOnPPrepend (· == '/') part := by
    induction text generalizing part with
    | nil => rfl
    | cons c rest ih =>
      rw [partsFrom, List.splitOnPPrepend]
      split <;> simp_all
  exact hfrom []

theorem parts_append_slash (front back : List Char) :
    parts (front ++ '/' :: back) = parts front ++ parts back := by
  simp only [parts_eq_splitOn]
  exact List.splitOnP_append_cons front back rfl

theorem slash_not_mem_of_mem_partsFrom {text start part : List Char} (hstart : '/' ∉ start)
    (h : part ∈ partsFrom start text) : '/' ∉ part := by
  induction text generalizing start with
  | nil =>
    rw [List.mem_singleton.1 h, List.mem_reverse]
    exact hstart
  | cons c rest ih =>
    rw [partsFrom] at h
    split at h
    case isTrue hc =>
      cases List.mem_cons.1 h with
      | inl heq => simpa [heq] using hstart
      | inr hrest => exact ih (List.not_mem_nil) hrest
    case isFalse hc =>
      apply ih _ h
      intro hmem
      cases List.mem_cons.1 hmem with
      | inl heq => exact hc (by simp [← heq])
      | inr hrest => exact hstart hrest

theorem slash_not_mem_of_mem_parts {part text : List Char} (h : part ∈ parts text) :
    '/' ∉ part :=
  slash_not_mem_of_mem_partsFrom List.not_mem_nil h

theorem parts_joinParts {given : List (List Char)} (hsome : given ≠ [])
    (hgiven : ∀ part ∈ given, '/' ∉ part) : parts (joinParts given) = given := by
  rw [parts_eq_splitOn]
  exact List.splitOn_intercalate '/' hgiven hsome

theorem joinParts_parts (text : List Char) : joinParts (parts text) = text := by
  rw [parts_eq_splitOn]
  exact List.intercalate_splitOn '/'

/-- A front of the parts of a text starts with a slash only if the text does. -/
theorem head_joinParts {given : List (List Char)} {text : List Char} (h : given <+: parts text)
    (hslash : (joinParts given).head? = some '/') : text.head? = some '/' := by
  rw [← joinParts_parts text]
  match given with
  | [] => cases hslash
  | [part] =>
    have hmem : '/' ∈ part := List.mem_of_head? (by simpa [joinParts] using hslash)
    exact absurd hmem (slash_not_mem_of_mem_parts (h.subset (List.mem_singleton_self part)))
  | (c :: part) :: next :: others =>
    have hmem : '/' ∈ c :: part := List.mem_of_head? (show (c :: part).head? = some '/' from hslash)
    exact absurd hmem (slash_not_mem_of_mem_parts (h.subset List.mem_cons_self))
  | [] :: next :: others =>
    obtain ⟨rest, hrest⟩ := h
    rw [← hrest]
    rfl

/-! ## Names -/

/-- The parts that are components. -/
def names (text : List Char) : List (List Char) :=
  (parts text).filter (!isVoid ·)

theorem components_eq (path : FilePath) : components path =
    (if isAbsolute path then ["/"] else []) ++ (names path.toList).map String.ofList :=
  rfl

theorem names_append_slash (front back : List Char) :
    names (front ++ '/' :: back) = names front ++ names back := by
  rw [names, parts_append_slash, List.filter_append]
  rfl

theorem names_slash (text : List Char) : names ('/' :: text) = names text :=
  names_append_slash [] text

theorem names_dot_slash (text : List Char) : names ('.' :: '/' :: text) = names text :=
  names_append_slash ['.'] text

theorem names_joinParts {given : List (List Char)} (hgiven : ∀ part ∈ given, '/' ∉ part) :
    names (joinParts given) = given.filter (!isVoid ·) := by
  by_cases hsome : given = []
  · subst hsome
    rfl
  · rw [names, parts_joinParts hsome hgiven]

/-! ## Anchor and body -/

section body

variable {path : FilePath}

/-- What is left of a path without its anchor. -/
def afterAnchor (path : FilePath) : List Char :=
  path.toList.drop (anchor path).length

/-- The anchor stands in front, and what it is says how the path starts. -/
theorem anchor_cases (path : FilePath) :
    anchor path ++ afterAnchor path = path.toList ∧
      (anchor path = ['/'] ∨
        anchor path = ['.'] ∧ (∃ others, parts (afterAnchor path) = [] :: others) ∨
        anchor path = [] ∧ path.toList.head? ≠ some '/') := by
  rw [afterAnchor]
  unfold anchor
  split
  next htext => exact ⟨by rw [htext]; rfl, .inl rfl⟩
  next htext => exact ⟨by rw [htext]; rfl, .inr (.inl ⟨rfl, [], by rw [htext]; rfl⟩)⟩
  next rest htext =>
    exact ⟨by rw [htext]; rfl, .inr (.inl ⟨rfl, parts rest, by rw [htext]; rfl⟩)⟩
  next hslash _ _ =>
    refine ⟨rfl, .inr (.inr ⟨rfl, ?_⟩)⟩
    intro hhead
    obtain ⟨rest, hrest⟩ := List.head?_eq_some_iff.1 hhead
    exact hslash rest hrest

theorem anchor_append (path : FilePath) : anchor path ++ afterAnchor path = path.toList :=
  (anchor_cases path).1

/-- A front of the parts after the anchor keeps its components behind the anchor. -/
theorem names_anchor_joinParts {given : List (List Char)}
    (h : given <+: parts (afterAnchor path)) :
    names (anchor path ++ joinParts given) = given.filter (!isVoid ·) := by
  have hgiven (part) (hpart : part ∈ given) : '/' ∉ part :=
    slash_not_mem_of_mem_parts (h.subset hpart)
  rcases (anchor_cases path).2 with hroot | ⟨hdot, hafter⟩ | ⟨hnone, -⟩
  · rw [hroot]
    exact (names_slash _).trans (names_joinParts hgiven)
  · -- Behind a dot the first part is empty, so a slash comes before the next one.
    obtain ⟨others, hothers⟩ := hafter
    rw [hothers] at h
    rw [hdot]
    match given with
    | [] => rfl
    | [first] =>
      rw [(List.cons_prefix_cons.1 h).1]
      rfl
    | first :: part :: rest =>
      rw [(List.cons_prefix_cons.1 h).1]
      calc names ('.' :: '/' :: joinParts (part :: rest))
        _ = names (joinParts (part :: rest)) := names_dot_slash _
        _ = (part :: rest).filter (!isVoid ·) :=
          names_joinParts fun part hpart ↦ hgiven part (List.mem_cons_of_mem _ hpart)
  · rw [hnone]
    exact names_joinParts hgiven

theorem isAbsolute_anchor_joinParts {given : List (List Char)}
    (h : given <+: parts (afterAnchor path)) :
    isAbsolute (String.ofList (anchor path ++ joinParts given)) = isAbsolute path := by
  rw [isAbsolute, isAbsolute, String.toList_ofList, ← anchor_append path]
  rcases (anchor_cases path).2 with hroot | ⟨hdot, -⟩ | ⟨hnone, hhead⟩
  · rw [hroot]
    rfl
  · rw [hdot]
    rfl
  · -- Without an anchor neither of the two starts with a slash.
    have hafter : (afterAnchor path).head? ≠ some '/' := by
      rwa [← anchor_append path, hnone] at hhead
    have hgiven : (joinParts given).head? ≠ some '/' := mt (head_joinParts h) hafter
    simp [hnone, hafter, hgiven]

/-- Void parts at the end are no components. -/
theorem filter_trimVoid (given : List (List Char)) :
    (trimVoid given).filter (!isVoid ·) = given.filter (!isVoid ·) := by
  have hvoid : (given.rtakeWhile isVoid).filter (!isVoid ·) = [] := by
    apply List.filter_eq_nil_iff.2
    intro part hpart
    simp [List.mem_rtakeWhile_imp hpart]
  calc (trimVoid given).filter (!isVoid ·)
    _ = (given.rdropWhile isVoid).filter (!isVoid ·) ++
        (given.rtakeWhile isVoid).filter (!isVoid ·) := by
      rw [hvoid, List.append_nil]
      rfl
    _ = given.filter (!isVoid ·) := by
      rw [← List.filter_append, List.rdropWhile_append_rtakeWhile]

theorem trimVoid_isFront (given : List (List Char)) : trimVoid given <+: given :=
  List.rdropWhile_prefix isVoid given

theorem names_eq_filter_body (path : FilePath) :
    names path.toList = (body path).filter (!isVoid ·) :=
  calc names path.toList
    _ = names (anchor path ++ joinParts (parts (afterAnchor path))) := by
      rw [joinParts_parts, anchor_append]
    _ = (parts (afterAnchor path)).filter (!isVoid ·) := names_anchor_joinParts List.prefix_rfl
    _ = (body path).filter (!isVoid ·) := (filter_trimVoid _).symm

theorem body_eq_nil_or_concat (path : FilePath) :
    body path = [] ∨ ∃ front last, body path = front ++ [last] ∧ isVoid last = false := by
  by_cases hsome : body path = []
  · exact .inl hsome
  · have hlast : ¬ isVoid ((body path).getLast hsome) := List.rdropWhile_last_not isVoid _ hsome
    refine .inr ⟨(body path).dropLast, (body path).getLast hsome, ?_, by simpa using hlast⟩
    exact (List.dropLast_concat_getLast hsome).symm

theorem body_isFront (path : FilePath) : body path <+: parts (afterAnchor path) :=
  trimVoid_isFront _

theorem slash_not_mem_of_mem_body {part : List Char} (h : part ∈ body path) : '/' ∉ part :=
  slash_not_mem_of_mem_parts ((body_isFront path).subset h)

/-- A path without a body has no components after its root. -/
theorem components_of_body_nil (h : body path = []) :
    components path = if isAbsolute path then ["/"] else [] := by
  rw [components_eq, names_eq_filter_body, h]
  exact List.append_nil _

/-- The last part of a body is the last component. -/
theorem components_of_body_concat {front : List (List Char)} {last : List Char}
    (h : body path = front ++ [last]) (hlast : isVoid last = false) :
    components path = (components path).dropLast ++ [String.ofList last] ∧
      (components path).dropLast = (if isAbsolute path then ["/"] else []) ++
        (front.filter (!isVoid ·)).map String.ofList := by
  have hcomponents : components path = (if isAbsolute path then ["/"] else []) ++
      (front.filter (!isVoid ·)).map String.ofList ++ [String.ofList last] := by
    rw [components_eq, names_eq_filter_body, h, List.filter_append, List.map_append,
      List.append_assoc]
    simp [hlast]
  rw [hcomponents, List.dropLast_concat]
  exact ⟨rfl, rfl⟩

/-- The directory of a path has its components but the last one. -/
theorem components_parent {directory : FilePath} (h : parent? path = some directory) :
    components directory = (components path).dropLast := by
  unfold parent? at h
  rcases body_eq_nil_or_concat path with hbody | ⟨front, last, hbody, hlast⟩
  · simp only [hbody, Option.ite_none_right_eq_some, Option.some.injEq] at h
    rw [components_of_body_nil hbody, ← h.2]
    split <;> rfl
  · have hprefix : trimVoid front <+: parts (afterAnchor path) := by
      have hfront : front <+: body path := ⟨[last], hbody.symm⟩
      exact (trimVoid_isFront front).trans (hfront.trans (body_isFront path))
    have hdirectory : String.ofList (anchor path ++ joinParts (trimVoid front)) = directory := by
      rw [hbody] at h
      split at h
      next hnil => simp at hnil
      next => simpa using h
    rw [(components_of_body_concat hbody hlast).2, ← hdirectory, components_eq,
      isAbsolute_anchor_joinParts hprefix, String.toList_ofList, names_anchor_joinParts hprefix,
      filter_trimVoid]

/-- Only a path without components below its root has no directory. -/
theorem components_of_parent_none (h : parent? path = none) : (components path).dropLast = [] := by
  unfold parent? at h
  rcases body_eq_nil_or_concat path with hbody | ⟨front, last, hbody, -⟩
  · rw [components_of_body_nil hbody]
    split <;> rfl
  · rw [hbody] at h
    split at h
    next hnil => simp at hnil
    next => cases h

/-- A part that counts is a path of one component. -/
theorem components_part {part : List Char} (hslash : '/' ∉ part) (hvoid : isVoid part = false) :
    isAbsolute (String.ofList part) = false ∧
      components (String.ofList part) = [String.ofList part] := by
  have hroot : isAbsolute (String.ofList part) = false := by
    rw [isAbsolute, String.toList_ofList, beq_eq_false_iff_ne]
    exact fun hhead ↦ hslash (List.mem_of_head? hhead)
  have hnames : names part = [part] := by
    calc names part
      _ = names (joinParts [part]) := by simp [joinParts]
      _ = [part].filter (!isVoid ·) := names_joinParts (by simpa using hslash)
      _ = [part] := by simp [hvoid]
  refine ⟨hroot, ?_⟩
  rw [components_eq, hroot, String.toList_ofList, hnames]
  rfl

/-- The name of a path is its last component. -/
theorem components_fileName {name : String} (h : fileName? path = some name) :
    isAbsolute name = false ∧ name ≠ ".." ∧ components name = [name] ∧
      components path = (components path).dropLast ++ [name] := by
  unfold fileName? at h
  rcases body_eq_nil_or_concat path with hbody | ⟨front, last, hbody, hlast⟩
  · simp [hbody] at h
  · have hslash : '/' ∉ last := by
      have hmem : last ∈ body path := hbody ▸ List.mem_concat_self
      exact slash_not_mem_of_mem_body hmem
    simp only [hbody, List.getLast?_concat, beq_iff_eq, Option.ite_none_left_eq_some,
      Option.some.injEq] at h
    rw [← h.2]
    refine ⟨(components_part hslash hlast).1, ?_, (components_part hslash hlast).2,
      (components_of_body_concat hbody hlast).1⟩
    exact fun hup ↦ h.1 (String.ofList_injective hup)

/-- A path without a name has nothing below its root, or leads upwards at last. -/
theorem components_of_fileName_none (h : fileName? path = none) :
    components path = (if isAbsolute path then ["/"] else []) ∨
      components path = (components path).dropLast ++ [".."] := by
  unfold fileName? at h
  rcases body_eq_nil_or_concat path with hbody | ⟨front, last, hbody, hlast⟩
  · exact .inl (components_of_body_nil hbody)
  · simp only [hbody, List.getLast?_concat, beq_iff_eq, ite_eq_left_iff, reduceCtorEq,
      imp_false, not_not] at h
    subst h
    exact .inr (components_of_body_concat hbody hlast).1

end body

/-! ## Joining -/

variable {base path : FilePath}

theorem names_join (h : isAbsolute path = false) :
    names (join base path).toList = names base.toList ++ names path.toList := by
  unfold join
  rw [h]
  split
  next hempty =>
    have hbase : base = "" := by simpa using hempty
    rw [hbase]
    rfl
  next =>
    split
    next hlast =>
      -- A base that ends in a slash has an empty part behind it.
      obtain ⟨front, hfront⟩ := List.getLast?_eq_some_iff.1 (beq_iff_eq.1 hlast)
      rw [String.toList_append, hfront, List.append_assoc]
      calc names (front ++ '/' :: path.toList)
        _ = names front ++ [] ++ names path.toList := by
          rw [names_append_slash, List.append_nil]
        _ = names (front ++ ['/']) ++ names path.toList := by
          rw [names_append_slash]
          rfl
    next =>
      rw [String.toList_append, String.toList_append, List.append_assoc]
      exact names_append_slash base.toList path.toList

theorem isAbsolute_join (h : isAbsolute path = false) :
    isAbsolute (join base path) = isAbsolute base := by
  unfold join
  rw [h]
  split
  next hempty =>
    have hbase : base = "" := by simpa using hempty
    rw [hbase, h]
    rfl
  next hsome =>
    have hsome : base.toList ≠ [] := by simpa using hsome
    obtain ⟨c, rest, hbase⟩ := List.exists_cons_of_ne_nil hsome
    split <;> simp [isAbsolute, hbase]

/-- A relative path that is seen from a directory has the components of both. -/
theorem components_join (h : isAbsolute path = false) :
    components (join base path) = components base ++ components path := by
  rw [components_eq, components_eq, components_eq, isAbsolute_join h, names_join h, h,
    List.map_append, List.append_assoc]
  rfl

/-- A relative path that leads upwards at last, from something below where it starts. -/
def ClimbsOut (path : FilePath) : Prop :=
  isAbsolute path = false ∧ ∃ front, front ≠ [] ∧ components path = front ++ [".."]

end FilePath

namespace CommandLine

open FilePath

variable (file : FilePath)

/-- The file that a run opens for the one it was given. -/
def located (file : FilePath) (base : Option FilePath) : FilePath :=
  let (directory, path) := locations file base
  { Settings.standard with baseDirectory := directory }.locate path

theorem components_directory :
    components (locations file none).1 = (components file).dropLast := by
  have hdot : components "." = [] := by decide
  cases hparent : parent? file with
  | none =>
    calc components (locations file none).1
      _ = components "." := by rw [locations, hparent]; rfl
      _ = (components file).dropLast := by rw [hdot, components_of_parent_none hparent]
  | some directory =>
    rw [← components_parent hparent, locations, hparent]
    by_cases hempty : directory = ""
    · rw [hempty]
      exact hdot
    · simp [Option.filter, hempty]

/-- A file that is asked for by a relative path is found below its directory. -/
theorem components_located_of_name (h : isAbsolute (locations file none).2 = false) :
    components (located file none) =
      (components file).dropLast ++ components (locations file none).2 := by
  rw [← components_directory]
  exact components_join h

/-- The file that is opened is the one that was meant, but for a relative file that climbs out of
what comes before its last component. Then that part comes twice. -/
theorem components_located_none :
    components (located file none) = components file ∧ ¬ ClimbsOut file ∨
      components (located file none) = (components file).dropLast ++ components file ∧
        ClimbsOut file := by
  cases hname : fileName? file with
  | some name =>
    have hpath : (locations file none).2 = name := by rw [locations, hname]; rfl
    obtain ⟨hrelative, hup, hsingle, hfile⟩ := components_fileName hname
    refine .inl ⟨?_, ?_⟩
    · calc components (located file none)
        _ = (components file).dropLast ++ components name := by
          rw [components_located_of_name file (by rw [hpath, hrelative]), hpath]
        _ = components file := by rw [hsingle, ← hfile]
    · rintro ⟨-, front, -, hclimbs⟩
      rw [hclimbs, List.dropLast_concat] at hfile
      exact hup (by simpa using hfile.symm)
  | none =>
    have hpath : (locations file none).2 = file := by rw [locations, hname]; rfl
    cases hroot : isAbsolute file with
    | true =>
      have hlocated : located file none = file := by
        simp [located, Settings.locate, join, hpath, hroot]
      exact .inl ⟨by rw [hlocated], fun hclimbs ↦ by simp [hclimbs.1] at hroot⟩
    | false =>
      have hlocated : components (located file none) =
          (components file).dropLast ++ components file := by
        rw [components_located_of_name file (by rw [hpath, hroot]), hpath]
      by_cases hsingle : (components file).dropLast = []
      · refine .inl ⟨by rw [hlocated, hsingle, List.nil_append], ?_⟩
        rintro ⟨-, front, hsome, hclimbs⟩
        rw [hclimbs, List.dropLast_concat] at hsingle
        exact hsome hsingle
      · cases components_of_fileName_none hname with
        | inl hbare => simp [hbare, hroot] at hsingle
        | inr hup => exact .inr ⟨hlocated, hroot, _, hsingle, hup⟩

/-- Without a base directory, the file that is opened has the components of the one that was given,
unless that climbs out of what comes before its last component: then this part comes twice. With a
base directory, an absolute file is opened as it is and a relative one from there. -/
theorem components_located :
    (components (located file none) = components file ↔ ¬ ClimbsOut file) ∧
      (ClimbsOut file → components (located file none) =
        (components file).dropLast ++ components file) ∧
      ∀ base, located file (some base) = (if isAbsolute file then file else join base file) ∧
        components (located file (some base)) =
          if isAbsolute file then components file else components base ++ components file := by
  refine ⟨?_, ?_, ?_⟩
  · rcases components_located_none file with ⟨hsame, hclimbs⟩ | ⟨htwice, hclimbs⟩
    · exact iff_of_true hsame hclimbs
    · refine iff_of_false ?_ (not_not.2 hclimbs)
      obtain ⟨-, front, hsome, hfile⟩ := hclimbs
      rw [htwice, hfile, List.dropLast_concat]
      exact mt List.append_left_eq_self.1 hsome
  · intro hclimbs
    rcases components_located_none file with ⟨-, hnot⟩ | ⟨htwice, -⟩
    · exact absurd hclimbs hnot
    · exact htwice
  · intro base
    have hlocated : located file (some base) = join base file := rfl
    cases hroot : isAbsolute file with
    | true => simp [hlocated, join, hroot]
    | false => simp [hlocated, components_join hroot]

/-- The directory above `a` is looked for in `a`. -/
theorem components_located_parent : components (located "a/.." none) ≠ components "a/.." := by
  decide

end CommandLine

end Playbook
