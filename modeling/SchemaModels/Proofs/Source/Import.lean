/-
A relative import leads to the module it was written for, with as few dots as can be.

How an import is read: `LeadsTo source target dots path` drops one package less than there are dots
from the packages around the source and appends the path.  The text that is written drops every
package which the two modules do not share and keeps the shared ones, except that the last name of
the target is never dropped.  A name holds no dot, so a path that is put together comes apart into
the names it was made of.  That is why the import leads back, and why no other import of the target
keeps more packages.
-/
import Mathlib.Data.List.DropRight
import SchemaModels.Proofs.Text.Words
import SchemaModels.Source.Import

namespace SchemaModels
namespace ModulePath

open Text

/-- The packages around a module, the outermost first. -/
def packages (module : String) : List (List Char) := (segments module.toList).dropLast

/-- In the module `source`, so many dots and a path mean the module `target`. -/
structure LeadsTo (source target : String) (dots : Nat) (path : List Char) : Prop where
  relative : 1 ≤ dots
  path_ne : path ≠ []
  /-- There are as many packages as are dropped. -/
  within : dots - 1 ≤ (packages source).length
  resolves : String.ofList (joinWith ['.'] ((packages source).rdrop (dots - 1) ++ [path])) = target

/-! ## Shared names -/

section Shared

variable {α : Type} [DecidableEq α]

theorem sharedCount_le (as bs : List α) : sharedCount as bs ≤ as.length := by
  induction as generalizing bs with
  | nil => simp [sharedCount]
  | cons a as ih =>
    cases bs with
    | nil => exact Nat.zero_le _
    | cons b bs =>
      rw [sharedCount]
      split
      · exact Nat.succ_le_succ (ih bs)
      · exact Nat.zero_le _

theorem take_sharedCount (as bs : List α) :
    as.take (sharedCount as bs) = bs.take (sharedCount as bs) := by
  induction as generalizing bs with
  | nil => simp [sharedCount]
  | cons a as ih =>
    cases bs with
    | nil => simp [sharedCount]
    | cons b bs =>
      by_cases h : a = b
      · rw [sharedCount, if_pos h, List.take_succ_cons, List.take_succ_cons, ih bs, h]
      · rw [sharedCount, if_neg h]
        rfl

theorem length_le_sharedCount {common : List α} :
    ∀ {as bs : List α}, common <+: as → common <+: bs → common.length ≤ sharedCount as bs := by
  induction common with
  | nil =>
    intro as bs _ _
    exact Nat.zero_le _
  | cons c common ih =>
    intro as bs has hbs
    obtain ⟨as', rfl, has'⟩ := List.cons_prefix_iff.mp has
    obtain ⟨bs', rfl, hbs'⟩ := List.cons_prefix_iff.mp hbs
    have hrest := ih has' hbs'
    rw [sharedCount, if_pos rfl, List.length_cons]
    omega

end Shared

/-! ## Names -/

theorem dot_not_mem_of_mem_segments {path name : List Char} (h : name ∈ segments path) :
    '.' ∉ name := by
  intro hdot
  have hnot := not_separator_of_mem_pieces h '.' hdot
  exact absurd hnot (by decide)

theorem dot_not_mem_of_mem_packages {module : String} {name : List Char}
    (h : name ∈ packages module) : '.' ∉ name :=
  dot_not_mem_of_mem_segments ((List.dropLast_sublist _).subset h)

theorem segments_of_no_dot {name : List Char} (h : '.' ∉ name) : segments name = [name] :=
  pieces_of_no_separator fun c hc => by simpa using ne_of_mem_of_not_mem hc h

theorem segments_joinWith_concat {names : List (List Char)} (h : ∀ name ∈ names, '.' ∉ name)
    (path : List Char) :
    segments (joinWith ['.'] (names ++ [path])) = names ++ segments path := by
  induction names with
  | nil => rfl
  | cons name rest ih =>
    obtain ⟨hname, hrest⟩ := List.forall_mem_cons.mp h
    have hsplit : joinWith ['.'] (name :: rest ++ [path]) =
        name ++ '.' :: joinWith ['.'] (rest ++ [path]) := by
      rw [List.cons_append, joinWith_cons (by simp), List.append_assoc]
      rfl
    have hpieces : segments (name ++ '.' :: joinWith ['.'] (rest ++ [path])) =
        segments name ++ segments (joinWith ['.'] (rest ++ [path])) := pieces_append (by rfl) _ _
    rw [hsplit, hpieces, segments_of_no_dot hname, ih hrest]
    rfl

theorem joinWith_concat_joinWith {names more : List (List Char)} (h : more ≠ []) :
    joinWith ['.'] (names ++ [joinWith ['.'] more]) = joinWith ['.'] (names ++ more) := by
  by_cases hnames : names = []
  · rw [hnames]
    rfl
  · rw [joinWith_append hnames (List.cons_ne_nil _ _), joinWith_append hnames h]
    rfl

theorem segments_joinWith {names : List (List Char)} (hsome : names ≠ [])
    (h : ∀ name ∈ names, '.' ∉ name) : segments (joinWith ['.'] names) = names := by
  -- The last name is a path of one name, with the others in front of it.
  have hlast : '.' ∉ names.getLast hsome := h _ (List.getLast_mem hsome)
  have hconcat := segments_joinWith_concat
    (fun name hname => h name ((List.dropLast_sublist names).subset hname)) (names.getLast hsome)
  rw [segments_of_no_dot hlast, List.dropLast_append_getLast hsome] at hconcat
  exact hconcat

theorem ne_nil_of_names {path : List Char} (h : ∀ name ∈ segments path, name ≠ []) :
    path ≠ [] ∧ path.head? ≠ some '.' := by
  cases path with
  | nil => exact absurd rfl (h [] List.mem_cons_self)
  | cons c rest =>
    refine ⟨List.cons_ne_nil _ _, fun hdot => ?_⟩
    obtain rfl : c = '.' := Option.some.inj hdot
    exact h [] List.mem_cons_self rfl

/-! ## Imports -/

variable {source target : String}

/-- What is dropped and what is kept are the packages, so some names of the target are shared and
the path has the others. -/
theorem LeadsTo.segments_eq {dots : Nat} {path : List Char} (h : LeadsTo source target dots path) :
    segments target.toList = (packages source).rdrop (dots - 1) ++ segments path := by
  rw [← h.resolves, String.toList_ofList]
  apply segments_joinWith_concat
  intro name hname
  exact dot_not_mem_of_mem_packages (List.mem_of_mem_take hname)

/-- An import that leads to a module has at least as many dots as there are packages to drop. -/
theorem LeadsTo.kept_le {dots : Nat} {path : List Char} (h : LeadsTo source target dots path) :
    (packages source).length - (dots - 1) ≤
      min (sharedCount (packages source) (segments target.toList))
        ((segments target.toList).length - 1) := by
  have hsegments := h.segments_eq
  have hkept : ((packages source).rdrop (dots - 1)).length =
      (packages source).length - (dots - 1) := by
    rw [List.rdrop, List.length_take]
    omega
  have hprefix : (packages source).rdrop (dots - 1) <+: packages source := List.take_prefix _ _
  have hshared := length_le_sharedCount hprefix (hsegments ▸ List.prefix_append _ _)
  have hpath : 0 < (segments path).length := List.length_pos_iff.mpr (pieces_ne_nil path)
  have hlength := congrArg List.length hsegments
  rw [List.length_append, hkept] at hlength
  rw [hkept] at hshared
  omega

/-- Packages that the target shares, and at most all of its names but the last, lead to it when what
is left of it is appended. -/
theorem resolves_of_kept {kept : Nat}
    (hshared : kept ≤ sharedCount (packages source) (segments target.toList))
    (hleft : (segments target.toList).drop kept ≠ []) :
    String.ofList (joinWith ['.'] ((packages source).take kept ++
      [joinWith ['.'] ((segments target.toList).drop kept)])) = target := by
  have htake : (packages source).take kept = (segments target.toList).take kept := by
    have h := congrArg (List.take kept)
      (take_sharedCount (packages source) (segments target.toList))
    rwa [List.take_take, List.take_take, Nat.min_eq_left hshared] at h
  rw [htake, joinWith_concat_joinWith hleft, List.take_append_drop, segments, joinWith_pieces,
    String.ofList_toList]

/-- What is written leads to the target, which has names in all places, and no import of the target
has fewer dots. -/
theorem relativeImport_leads (source : String) {target : String}
    (hnames : ∀ name ∈ segments target.toList, name ≠ []) :
    ∃ dots path, relativeImport source target = String.ofList (List.replicate dots '.' ++ path) ∧
      path.head? ≠ some '.' ∧ (∀ name ∈ segments path, name ≠ []) ∧
      LeadsTo source target dots path ∧
      ∀ otherDots otherPath, LeadsTo source target otherDots otherPath → dots ≤ otherDots := by
  let around := packages source
  let names := segments target.toList
  let kept := min (sharedCount around names) (names.length - 1)
  have hsome : 0 < names.length := List.length_pos_iff.mpr (pieces_ne_nil target.toList)
  have hkept : kept ≤ around.length :=
    Nat.le_trans (Nat.min_le_left _ _) (sharedCount_le around names)
  have hleft : names.drop kept ≠ [] := by
    rw [Ne, List.drop_eq_nil_iff]
    omega
  have hpath : ∀ name ∈ segments (joinWith ['.'] (names.drop kept)), name ≠ [] := by
    rw [segments_joinWith hleft fun name hname =>
      dot_not_mem_of_mem_segments (List.mem_of_mem_drop hname)]
    exact fun name hname => hnames name (List.mem_of_mem_drop hname)
  have hdropped : 1 + around.length - kept - 1 = around.length - kept := by omega
  have hrdrop : around.rdrop (1 + around.length - kept - 1) = around.take kept := by
    rw [hdropped, List.rdrop, Nat.sub_sub_self hkept]
  refine ⟨1 + around.length - kept, joinWith ['.'] (names.drop kept), rfl,
    (ne_nil_of_names hpath).2, hpath, ?_, ?_⟩
  · constructor
    case relative => omega
    case path_ne => exact (ne_nil_of_names hpath).1
    case within => exact hdropped ▸ Nat.sub_le _ _
    case resolves =>
      show String.ofList (joinWith ['.'] (around.rdrop _ ++ _)) = target
      rw [hrdrop]
      exact resolves_of_kept (Nat.min_le_left _ _) hleft
  · -- Fewer dots keep more packages than the two modules share.
    intro otherDots otherPath hother
    have hless : around.length - (otherDots - 1) ≤ kept := hother.kept_le
    have hone := hother.relative
    have hwithin : otherDots - 1 ≤ around.length := hother.within
    omega

/-- The target is a package around the source, and its last name is left to be imported. -/
theorem package_around_led_to :
    relativeImport "a.b.c" "a.b" = "..b" ∧ (∀ name ∈ segments "a.b".toList, name ≠ []) ∧
      LeadsTo "a.b.c" "a.b" 2 ['b'] ∧ ¬∃ path, LeadsTo "a.b.c" "a.b" 1 path := by
  have hnames : ∀ name ∈ segments "a.b".toList, name ≠ [] := by decide +kernel
  obtain ⟨dots, path, hwritten, hhead, -, hleads, hleast⟩ := relativeImport_leads "a.b.c" hnames
  have htext : relativeImport "a.b.c" "a.b" = "..b" := by decide +kernel
  have hboth : ['.', '.', 'b'] = List.replicate dots '.' ++ path := by
    rw [← String.toList_ofList (l := List.replicate dots '.' ++ path), ← hwritten, htext]
    rfl
  obtain ⟨rfl, rfl⟩ : dots = 2 ∧ path = ['b'] := by
    match dots with
    | 0 => exact absurd (congrArg List.head? hboth).symm hhead
    | 1 => exact absurd (congrArg List.head? (List.cons.inj hboth).2).symm hhead
    | 2 => exact ⟨rfl, (List.cons.inj (List.cons.inj hboth).2).2.symm⟩
    | n + 3 => simp [List.replicate] at hboth
  refine ⟨htext, hnames, hleads, ?_⟩
  rintro ⟨other, hother⟩
  exact absurd (hleast 1 other hother) (by decide)

end ModulePath
end SchemaModels
