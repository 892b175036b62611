import Mathlib.Data.List.Dedup
import ProcessMeter.Proofs.LexicalPath
import ProcessMeter.Proofs.SpelledControllers

/-!
# Files for whatever they have to say

A tree can be given files of any names and contents. A statement about trees is writable by names if
contents of these names make it true. Statements of different names can be made at once, so what a
controller reports is written file by file.
-/

namespace ProcessMeter

namespace FileTree

/-- A name that a file can have, short enough for every path. -/
structure IsFileName (name : Text) : Prop where
  /-- A name has no slashes. -/
  noSlash : '/' ∉ name
  /-- A name has no NUL. -/
  noNul : '\x00' ∉ name
  /-- A name is not empty and does not stand for a directory. -/
  named : name ∉ [[], ['.'], ['.', '.']]
  /-- A name is not too long. -/
  short : Text.byteLength name ≤ maxName

instance IsFileName.decidable (name : Text) : Decidable (IsFileName name) :=
  decidable_of_iff ('/' ∉ name ∧ '\x00' ∉ name ∧ name ∉ [[], ['.'], ['.', '.']] ∧
      Text.byteLength name ≤ maxName)
    ⟨fun ⟨noSlash, noNul, named, short⟩ => ⟨noSlash, noNul, named, short⟩,
      fun h => ⟨h.noSlash, h.noNul, h.named, h.short⟩⟩

/-- The tree with files right below its root. -/
def ofContents (contents : Text → Option Text) (names : List Text) : FileTree where
  entries := names.dedup.filterMap fun name =>
    (contents name).map fun text => ([name], .file (Text.encode text))
  distinct := by
    rw [List.map_filterMap]
    refine names.nodup_dedup.filterMap fun name name' place hname hname' => ?_
    obtain ⟨e, he, rfl⟩ := Option.map_eq_some_iff.mp hname
    obtain ⟨e', he', hplace⟩ := Option.map_eq_some_iff.mp hname'
    obtain ⟨_, _, rfl⟩ := Option.map_eq_some_iff.mp he
    obtain ⟨_, _, rfl⟩ := Option.map_eq_some_iff.mp he'
    simpa using hplace.symm

/-- The tree has the content under the name, right below its root. -/
def Shows (tree : FileTree) (name : Text) : Option Text → Prop
  | none => tree.Absent (Path.join ['/'] name)
  | some text => tree.openFile (Path.join ['/'] name) = .ok (.content (Text.encode text))

section Contents

variable {contents : Text → Option Text} {name : Text}

/-- Among the files that are written each has its own content. -/
private theorem lookup_contents {names : List Text} (hname : name ∈ names) :
    (names.filterMap fun name =>
        (contents name).map fun text => ([name], Entry.file (Text.encode text))).lookup [name] =
      (contents name).map fun text => .file (Text.encode text) := by
  induction names with
  | nil => cases hname
  | cons other rest ih =>
    by_cases heq : name = other
    · subst heq
      cases hcontent : contents name with
      | some text => simp [hcontent]
      | none =>
        rw [List.filterMap_cons_none (by simp [hcontent])]
        refine List.lookup_eq_none_iff.mpr fun e he => ?_
        obtain ⟨more, -, he⟩ := List.mem_filterMap.mp he
        obtain ⟨text, htext, rfl⟩ := Option.map_eq_some_iff.mp he
        rw [bne_iff_ne]
        rintro ⟨⟩
        simp [hcontent] at htext
    · have hrest : name ∈ rest := (List.mem_cons.mp hname).resolve_left heq
      have hne : ([name] == [other]) = false := beq_eq_false_iff_ne.mpr (by simpa using heq)
      cases hcontent : contents other with
      | none => rw [List.filterMap_cons_none (by simp [hcontent]), ih hrest]
      | some text =>
        rw [List.filterMap_cons_some (b := ([other], .file (Text.encode text)))
          (by simp [hcontent]), List.lookup_cons, hne]
        exact ih hrest

/-- A file name in the root directory is one step. -/
private theorem steps_of_isFileName (h : IsFileName name) : steps ('/' :: name) = [name] := by
  obtain ⟨c, rest, rfl⟩ := List.exists_cons_of_ne_nil
    (show name ≠ [] from fun hempty => h.named (by simp [hempty]))
  have hitems : Text.items '/' ('/' :: c :: rest) = [c :: rest] := by
    have hsplit := Text.items_append '/' [] (c :: rest)
    rw [List.nil_append] at hsplit
    rw [hsplit, Text.items, Text.items, Text.split_of_not_mem h.noSlash]
    rfl
  have hlast : ('/' :: c :: rest).getLast? ≠ some '/' := fun hlast =>
    h.noSlash (List.mem_of_getLast? (by simpa [List.getLast?_cons_cons] using hlast))
  rw [steps_eq_items hlast, hitems]

/-- A file name is joined to the root by one slash. -/
private theorem join_root_name (h : IsFileName name) : Path.join ['/'] name = '/' :: name := by
  rw [Path.join, Path.isAbsolute_of_not_mem h.noSlash]
  rfl

/-- A file right below the root is found under its name. -/
private theorem locate_of_isFileName (tree : FileTree) (h : IsFileName name)
    (hfiles : ∀ target, tree.find? [name] ≠ some (.link target)) :
    tree.locate true (Path.join ['/'] name) =
      match tree.find? [name] with
      | none => .error .notFound
      | some entry => .ok ([name], entry) := by
  have hnul : '\x00' ∉ '/' :: name := by simp [h.noNul]
  have hlength : ¬ maxPath ≤ Text.byteLength ('/' :: name) := by
    have hslash : Text.byteLength ('/' :: name) = 1 + Text.byteLength name := rfl
    have hshort := h.short
    rw [hslash, maxPath]
    rw [maxName] at hshort
    omega
  have hnamed := h.named
  simp only [List.mem_cons, List.not_mem_nil, or_false, not_or] at hnamed
  rw [join_root_name h, locate, if_neg (List.cons_ne_nil _ _), if_neg hnul, if_neg hlength,
    steps_of_isFileName h]
  change walkFrom tree true (walk tree true 39) [] [name] = _
  rw [walkFrom, find?]
  simp only [hnamed.2.1, hnamed.2.2, if_false, Nat.not_lt.mpr h.short, List.nil_append]
  cases hfind : tree.find? [name] with
  | none => rfl
  | some entry =>
    cases entry with
    | link target => exact absurd hfind (hfiles target)
    | file content => simp [walkFrom, hfind]
    | directory => simp [walkFrom, hfind]
    | closed number => simp [walkFrom, hfind]
    | unreadable number => simp [walkFrom, hfind]

/-- Every name shows the content that it was given. -/
theorem ofContents_shows {names : List Text} (hname : name ∈ names) (hfile : IsFileName name) :
    (ofContents contents names).Shows name (contents name) := by
  have hfind : (ofContents contents names).find? [name] =
      (contents name).map fun text => .file (Text.encode text) :=
    lookup_contents (List.mem_dedup.mpr hname)
  have hlocate := locate_of_isFileName (ofContents contents names) hfile (by
    rw [hfind]
    cases contents name <;> simp)
  rw [hfind] at hlocate
  cases hcontent : contents name with
  | none => simp [Shows, Absent, openFile, hlocate, hcontent]
  | some text => simp [Shows, openFile, hlocate, hcontent]

end Contents

/-- Contents under the names make the statement true of every tree. -/
def Writable (names : List Text) (statement : FileTree → Prop) : Prop :=
  ∃ contents : Text → Option Text,
    ∀ tree : FileTree, (∀ name ∈ names, tree.Shows name (contents name)) → statement tree

namespace Writable

variable {names names' : List Text} {statement statement' : FileTree → Prop}

/-- What follows from a statement can be written where the statement can. -/
theorem imp (h : Writable names statement) (himp : ∀ tree, statement tree → statement' tree) :
    Writable names statement' := by
  obtain ⟨contents, hcontents⟩ := h
  exact ⟨contents, fun tree htree => himp tree (hcontents tree htree)⟩

/-- What can be written to some files can be written to more. -/
theorem mono (h : Writable names statement) (hsub : ∀ name ∈ names, name ∈ names') :
    Writable names' statement := by
  obtain ⟨contents, hcontents⟩ := h
  exact ⟨contents, fun tree htree => hcontents tree fun name hname => htree name (hsub name hname)⟩

/-- Statements of different names can be made at once. -/
theorem and (h : Writable names statement) (h' : Writable names' statement')
    (hapart : ∀ name ∈ names', name ∉ names) :
    Writable (names ++ names') fun tree => statement tree ∧ statement' tree := by
  obtain ⟨contents, hcontents⟩ := h
  obtain ⟨contents', hcontents'⟩ := h'
  refine ⟨fun name => if name ∈ names then contents name else contents' name,
    fun tree htree => ⟨hcontents tree fun name hname => ?_, hcontents' tree fun name hname => ?_⟩⟩
  · simpa [hname] using htree name (List.mem_append_left _ hname)
  · simpa [hapart name hname] using htree name (List.mem_append_right _ hname)

/-- Where the names can be names of files, there is a tree of which the statement is true. -/
theorem exists_tree (h : Writable names statement) (hfiles : ∀ name ∈ names, IsFileName name) :
    ∃ tree, statement tree := by
  obtain ⟨contents, hcontents⟩ := h
  exact ⟨ofContents contents names,
    hcontents _ fun name hname => ofContents_shows hname (hfiles name hname)⟩

variable {α : Type}

/-- A file may be missing. -/
theorem absent (name : Text) : Writable [name] fun tree => tree.Absent (Path.join ['/'] name) :=
  ⟨fun _ => none, fun _ htree => htree name List.mem_cons_self⟩

/-- A value with a spelling can be written. -/
theorem spells {spells : Text → α → Prop} {a : α} (name : Text) (h : ∃ text, spells text a) :
    Writable [name] fun tree => tree.Spells (Path.join ['/'] name) spells a := by
  obtain ⟨text, htext⟩ := h
  exact ⟨fun _ => some text, fun tree htree => ⟨text, htree name List.mem_cons_self, htext⟩⟩

/-- An optional value can be written to a file or left out. -/
theorem spellsOptional {spells : Text → α → Prop} {value : Option α} (name : Text)
    (h : ∀ a ∈ value, ∃ text, spells text a) :
    Writable [name] fun tree => tree.SpellsOptional (Path.join ['/'] name) spells value := by
  cases value with
  | none => exact absent name
  | some a => exact Writable.spells name (h a rfl)

/-- A limit can be written to a file. -/
theorem spellsLimit {spells : Text → Option α → Prop} {limit : Option α} (name : Text)
    (h : ∃ text, spells text limit) :
    Writable [name] fun tree => tree.SpellsLimit (Path.join ['/'] name) spells limit :=
  (Writable.spells name h).imp fun _ => Or.inr

end Writable

end FileTree

end ProcessMeter
