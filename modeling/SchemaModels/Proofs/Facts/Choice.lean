/-
Choices and their numbers.

A fact names the choice that stands innermost around its declaration.  Choices are numbered when
their first member is met, so in document order of their first members and without gaps, and since
names of different numbers differ, two facts name one choice just if they stand in one.  A choice has
to be made if no compositor on the whole way down to the declaration is optional.
-/
import SchemaModels.Proofs.Facts.Declaration
import SchemaModels.Proofs.Text.Numeral

namespace SchemaModels

open Xml (Placed)

/-! ## The innermost choice -/

/-- The choice `c` stands around `d` inside the complex type, and all other choices that do stand
around `c` as well. -/
structure IsInnermostChoice (complexType c d : Placed) : Prop where
  isChoice : c.name = "choice"
  inside : c.IsIn complexType
  around : d.IsIn c
  innermost : ∀ c' : Placed, c'.name = "choice" → c'.IsIn complexType → d.IsIn c' →
    c' = c ∨ c.IsIn c'

variable {complexType c c' d d' : Placed}

theorem IsInnermostChoice.unique (h : IsInnermostChoice complexType c d)
    (h' : IsInnermostChoice complexType c' d) : c = c' := by
  rcases h.innermost c' h'.isChoice h'.inside h'.around with rfl | hin
  · rfl
  rcases h'.innermost c h.isChoice h.inside h.around with rfl | hin'
  · rfl
  · exact absurd hin hin'.asymm

theorem IsInnermostChoice.eq_of_place_eq (h : IsInnermostChoice complexType c d)
    (h' : IsInnermostChoice complexType c' d') (hplace : c.place = c'.place) : c = c' :=
  Placed.eq_of_place_eq h.inside.to_reflTransGen h'.inside.to_reflTransGen hplace

namespace Enclosed

variable {e : Enclosed}

theorem IsCarried.choicePlace?_eq_some_iff (h : e.IsCarried complexType) {place : List Nat} :
    e.choicePlace? = some place ↔
      ∃ c, IsInnermostChoice complexType c e.node ∧ c.place = place := by
  have hinner : ∀ c, (e.around.reverse.find? fun c => c.name == "choice") = some c →
      IsInnermostChoice complexType c e.node := by
    intro c hc
    obtain ⟨hchoice, before, after, hsplit, hnone⟩ := List.find?_eq_some_iff_append.mp hc
    have haround : e.around = after.reverse ++ c :: before.reverse := by
      simpa using congrArg List.reverse hsplit
    have hnested := h.nested
    rw [haround, List.pairwise_append] at hnested
    obtain ⟨-, hin, hec⟩ := (h.mem_iff c).mp (haround ▸ by simp)
    refine ⟨by simpa using hchoice, hin, hec, ?_⟩
    intro c' hname hin' hec'
    have hmem : c' ∈ e.around := (h.mem_iff c').mpr ⟨by rw [hname]; decide, hin', hec'⟩
    rw [haround, List.mem_append, List.mem_cons, List.mem_reverse, List.mem_reverse] at hmem
    rcases hmem with houter | rfl | hbefore
    · exact Or.inr (hnested.2.2 c' (List.mem_reverse.mpr houter) c List.mem_cons_self)
    · exact Or.inl rfl
    · exact absurd hname (by simpa using hnone c' hbefore)
  rw [choicePlace?, Option.map_eq_some_iff]
  constructor
  · rintro ⟨c, hc, hplace⟩
    exact ⟨c, hinner c hc, hplace⟩
  · rintro ⟨c, hc, hplace⟩
    have hmem : c ∈ e.around.reverse := List.mem_reverse.mpr ((h.mem_iff c).mpr
      ⟨by rw [hc.isChoice]; decide, hc.inside, hc.around⟩)
    have hfound : (e.around.reverse.find? fun c => c.name == "choice").isSome = true :=
      List.find?_isSome.mpr ⟨c, hmem, by simpa using hc.isChoice⟩
    obtain ⟨x, hx⟩ := Option.isSome_iff_exists.mp hfound
    exact ⟨x, hx, (hinner x hx).unique hc ▸ hplace⟩

theorem IsCarried.choicePlace?_eq_none_iff (h : e.IsCarried complexType) :
    e.choicePlace? = none ↔
      ∀ c : Placed, c.IsIn complexType → e.node.IsIn c → c.name ≠ "choice" := by
  rw [choicePlace?, Option.map_eq_none_iff, List.find?_eq_none]
  constructor
  · intro hnone c hin hec hname
    have hmem := (h.mem_iff c).mpr ⟨by rw [hname]; decide, hin, hec⟩
    exact hnone c (List.mem_reverse.mpr hmem) (by simpa using hname)
  · intro hnone c hmem hname
    obtain ⟨-, hin, hec⟩ := (h.mem_iff c).mp (List.mem_reverse.mp hmem)
    exact hnone c hin hec (by simpa using hname)

theorem IsCarried.isInevitable_iff (h : e.IsCarried complexType) :
    e.isInevitable = true ↔ ∀ c : Placed, c.IsIn complexType → e.node.IsIn c →
      c.name ∈ compositorNames → c.attr? "minOccurs" ≠ some "0" := by
  rw [isInevitable, List.all_eq_true]
  constructor
  · intro hall c hin hec hname
    simpa using hall c ((h.mem_iff c).mpr ⟨hname, hin, hec⟩)
  · intro hall c hmem
    obtain ⟨hname, hin, hec⟩ := (h.mem_iff c).mp hmem
    simpa using hall c hin hec hname

end Enclosed

/-! ## Numbers -/

/-- The innermost choice around a declaration stands at the place. -/
def IsChoicePlace (complexType : Placed) (place : List Nat) (d : Placed) : Prop :=
  ∃ c, IsInnermostChoice complexType c d ∧ c.place = place

/-- The places of choices in the order of their numbers: each is the innermost one around a
declaration, and its first member comes before all members of those behind it. -/
structure NumbersChoices (complexType : Placed) (ds : List Placed) (choices : List (List Nat)) :
    Prop where
  nodup : choices.Nodup
  mem_iff : ∀ place, place ∈ choices ↔ ∃ d ∈ ds, IsChoicePlace complexType place d
  inOrder : choices.Pairwise fun place place' =>
    ∃ d ∈ ds, IsChoicePlace complexType place d ∧
      ∀ d' ∈ ds, IsChoicePlace complexType place' d' → d.place < d'.place

theorem numbersChoices_nil : NumbersChoices complexType [] [] :=
  ⟨List.nodup_nil, by simp, List.Pairwise.nil⟩

/-- One more declaration, behind all others, gives the next number to a choice that is new. -/
theorem NumbersChoices.concat {ds : List Placed} {choices : List (List Nat)} {e : Enclosed}
    (h : NumbersChoices complexType ds choices) (he : e.IsCarried complexType)
    (hlast : ∀ d ∈ ds, d.place < e.node.place) :
    NumbersChoices complexType (ds ++ [e.node]) (addChoice choices e) := by
  have hchoice : ∀ place, IsChoicePlace complexType place e.node ↔ e.choicePlace? = some place :=
    fun _ => he.choicePlace?_eq_some_iff.symm
  have hold : choices.Pairwise fun place place' =>
      ∃ d ∈ ds ++ [e.node], IsChoicePlace complexType place d ∧
        ∀ d' ∈ ds ++ [e.node], IsChoicePlace complexType place' d' → d.place < d'.place := by
    refine h.inOrder.imp ?_
    rintro place place' ⟨d, hd, hplace, hbefore⟩
    refine ⟨d, List.mem_append_left _ hd, hplace, ?_⟩
    intro d' hd' hplace'
    rcases List.mem_append.mp hd' with hd' | hd'
    · exact hbefore d' hd' hplace'
    · rw [List.mem_singleton.mp hd']
      exact hlast d hd
  have hmem : ∀ place, (∃ d ∈ ds ++ [e.node], IsChoicePlace complexType place d) ↔
      place ∈ choices ∨ e.choicePlace? = some place := by
    intro place
    simp only [List.mem_append, List.mem_singleton, or_and_right, exists_or, exists_eq_left,
      ← h.mem_iff, hchoice]
  rcases addChoice_cases choices e with ⟨hmet, heq⟩ | ⟨new, hnew, hnot, heq⟩ <;> rw [heq]
  · refine ⟨h.nodup, ?_, hold⟩
    intro place
    rw [hmem]
    exact (or_iff_left_of_imp (hmet place)).symm
  · refine ⟨List.nodup_append.mpr ⟨h.nodup, List.nodup_singleton _, ?_⟩, ?_, ?_⟩
    · intro place hplace other hother heq
      rw [heq, List.mem_singleton.mp hother] at hplace
      exact hnot hplace
    · intro place
      rw [hmem, hnew, List.mem_append, List.mem_singleton, Option.some.injEq]
      exact or_congr_right eq_comm
    · rw [List.pairwise_append]
      refine ⟨hold, List.pairwise_singleton _ _, ?_⟩
      intro place hplace other hother
      rw [List.mem_singleton.mp hother]
      obtain ⟨d, hd, hd'⟩ := (h.mem_iff place).mp hplace
      refine ⟨d, List.mem_append_left _ hd, hd', ?_⟩
      intro d' hd' hplace'
      rcases List.mem_append.mp hd' with hmember | hmember
      · exact absurd ((h.mem_iff new).mpr ⟨d', hmember, hplace'⟩) hnot
      · rw [List.mem_singleton.mp hmember]
        exact hlast d hd

theorem numbersChoices_foldl (es : List Enclosed) (hes : ∀ e ∈ es, e.IsCarried complexType)
    (horder : es.Pairwise fun e e' => e.node.place < e'.node.place) :
    NumbersChoices complexType (es.map Enclosed.node) (es.foldl addChoice []) := by
  induction es using List.reverseRecOn with
  | nil => exact numbersChoices_nil
  | append_singleton es e ih =>
    obtain ⟨hfirst, -, hlast⟩ := List.pairwise_append.mp horder
    have hes' := ih (fun e' he' => hes e' (List.mem_append_left _ he')) hfirst
    rw [List.map_append, List.foldl_append]
    refine hes'.concat (hes e (List.mem_append_right _ List.mem_cons_self)) ?_
    intro d hd
    obtain ⟨e', he', rfl⟩ := List.mem_map.mp hd
    exact hlast e' he' e List.mem_cons_self

theorem numbersChoices_choicesOf (complexType : Placed) :
    NumbersChoices complexType ((namedDeclarations complexType).map Enclosed.node)
      (choicesOf complexType) := by
  have horder := (areDeclarations_namedDeclarations complexType).inOrder
  rw [List.pairwise_map] at horder
  exact numbersChoices_foldl _ (fun _ => isCarried_of_mem_namedDeclarations) horder

/-! ## Names of choices -/

theorem choiceName_injective {className : String} {i j : Nat}
    (h : choiceName className (i + 1) = choiceName className (j + 1)) : i = j := by
  have hends : (if i + 1 > 1 then toString (i + 1) else "") =
      if j + 1 > 1 then toString (j + 1) else "" := by
    have hjoined : ∀ k, choiceName className k = String.ofList (Text.lowerAll className.toList) ++
        if k > 1 then toString k else "" := by
      intro k
      rw [choiceName]
      split <;> simp
    rw [hjoined, hjoined, ← String.toList_inj, String.toList_append, String.toList_append] at h
    exact String.toList_inj.mp (List.append_cancel_left h)
  have hsome : ∀ n : Nat, toString n ≠ "" := by
    intro n hn
    have hdigits := congrArg String.toList hn
    rw [Nat.toString_eq_ofList_toDigits, String.toList_ofList] at hdigits
    exact Nat.toDigits_ne_nil hdigits
  split at hends <;> split at hends
  · have := toString_nat_injective hends
    omega
  · exact absurd hends (hsome _)
  · exact absurd hends.symm (hsome _)
  · omega

/-! ## Facts about choices -/

/-- What a fact says about the choice around its declaration. -/
structure TellsChoice (complexType : Placed) (className : String) (choices : List (List Nat))
    (d : Placed) (fact : Fact) : Prop where
  none_iff : fact.choice = none ↔
    ∀ c : Placed, c.IsIn complexType → d.IsIn c → c.name ≠ "choice"
  some_iff : ∀ name, fact.choice = some name ↔
    ∃ c k, IsInnermostChoice complexType c d ∧ choices[k]? = some c.place ∧
      name = choiceName className (k + 1)
  required_iff : fact.choiceRequired = true ↔
    (∃ c : Placed, c.IsIn complexType ∧ d.IsIn c ∧ c.name = "choice") ∧
      ∀ c : Placed, c.IsIn complexType → d.IsIn c → c.name ∈ compositorNames →
        c.attr? "minOccurs" ≠ some "0"

theorem choice_fact (className : String) (choices : List (List Nat)) (d : Enclosed) :
    (d.fact className choices).choice =
      d.choicePlace?.map fun place => choiceName className (choices.idxOf place + 1) := by
  rw [Enclosed.fact]
  cases d.choicePlace? <;> rfl

theorem choiceRequired_fact (className : String) (choices : List (List Nat)) (d : Enclosed) :
    (d.fact className choices).choiceRequired = (d.choicePlace?.isSome && d.isInevitable) := by
  rw [Enclosed.fact]
  cases d.choicePlace? <;> rfl

theorem NumbersChoices.getElem?_idxOf {ds : List Placed} {choices : List (List Nat)}
    (h : NumbersChoices complexType ds choices) {k : Nat} {place : List Nat} :
    choices[k]? = some place ↔ place ∈ choices ∧ choices.idxOf place = k := by
  constructor
  · intro hk
    obtain ⟨hlt, rfl⟩ := List.getElem?_eq_some_iff.mp hk
    exact ⟨List.getElem_mem hlt, h.nodup.idxOf_getElem k hlt⟩
  · rintro ⟨hmem, rfl⟩
    have hlt := List.idxOf_lt_length_iff.mpr hmem
    rw [List.getElem?_eq_getElem hlt, List.getElem_idxOf hlt]

theorem Enclosed.IsCarried.tellsChoice {e : Enclosed} {ds : List Placed}
    {choices : List (List Nat)} (he : e.IsCarried complexType)
    (h : NumbersChoices complexType ds choices) (hmem : e.node ∈ ds) (className : String) :
    TellsChoice complexType className choices e.node (e.fact className choices) := by
  constructor
  case none_iff => rw [choice_fact, Option.map_eq_none_iff, he.choicePlace?_eq_none_iff]
  case some_iff =>
    intro name
    rw [choice_fact, Option.map_eq_some_iff]
    constructor
    · rintro ⟨place, hplace, rfl⟩
      obtain ⟨c, hc, rfl⟩ := he.choicePlace?_eq_some_iff.mp hplace
      have hin : c.place ∈ choices := (h.mem_iff c.place).mpr ⟨e.node, hmem, c, hc, rfl⟩
      exact ⟨c, choices.idxOf c.place, hc, h.getElem?_idxOf.mpr ⟨hin, rfl⟩, rfl⟩
    · rintro ⟨c, k, hc, hk, rfl⟩
      refine ⟨c.place, he.choicePlace?_eq_some_iff.mpr ⟨c, hc, rfl⟩, ?_⟩
      rw [(h.getElem?_idxOf.mp hk).2]
  case required_iff =>
    rw [choiceRequired_fact, Bool.and_eq_true, he.isInevitable_iff]
    refine and_congr_left fun _ => ?_
    rw [Option.isSome_iff_ne_none, ne_eq, he.choicePlace?_eq_none_iff]
    push Not
    rfl

theorem TellsChoice.choice_eq {className : String} {ds : List Placed}
    {choices : List (List Nat)} {fact : Fact}
    (h : TellsChoice complexType className choices d fact)
    (hnumbers : NumbersChoices complexType ds choices) (hd : d ∈ ds)
    (hc : IsInnermostChoice complexType c d) :
    c.place ∈ choices ∧
      fact.choice = some (choiceName className (choices.idxOf c.place + 1)) := by
  have hmem : c.place ∈ choices := (hnumbers.mem_iff c.place).mpr ⟨d, hd, c, hc, rfl⟩
  refine ⟨hmem, (h.some_iff _).mpr ⟨c, choices.idxOf c.place, hc, ?_, rfl⟩⟩
  exact hnumbers.getElem?_idxOf.mpr ⟨hmem, rfl⟩

/-- The facts of a complex type stand for its declarations in order.  Each names the innermost choice
around its declaration by the number that this choice gets when its first member is met, so two name
one choice just if they stand in one; there is no name just if there is no choice, and one has to be
made just if no compositor around the declaration is optional. -/
theorem facts_number_choices (complexType : Placed) (className : String) :
    ∃ (ds : List Placed) (choices : List (List Nat)),
      AreDeclarations complexType ds ∧ ds.length = (factsOf complexType className).length ∧
      NumbersChoices complexType ds choices ∧
      (∀ p ∈ ds.zip (factsOf complexType className),
        TellsChoice complexType className choices p.1 p.2.2) ∧
      ∀ p ∈ ds.zip (factsOf complexType className), ∀ q ∈ ds.zip (factsOf complexType className),
        ∀ c c', IsInnermostChoice complexType c p.1 → IsInnermostChoice complexType c' q.1 →
          (p.2.2.choice = q.2.2.choice ↔ c = c') := by
  have hnumbers := numbersChoices_choicesOf complexType
  have htells : ∀ p ∈ ((namedDeclarations complexType).map Enclosed.node).zip
      (factsOf complexType className),
      TellsChoice complexType className (choicesOf complexType) p.1 p.2.2 := by
    rw [factsOf_eq, List.zip_map']
    intro p hp
    obtain ⟨e, he, rfl⟩ := List.mem_map.mp hp
    exact (isCarried_of_mem_namedDeclarations he).tellsChoice hnumbers (List.mem_map_of_mem he)
      className
  refine ⟨(namedDeclarations complexType).map Enclosed.node, choicesOf complexType,
    areDeclarations_namedDeclarations complexType, ?_, hnumbers, htells, ?_⟩
  · rw [factsOf_eq, List.length_map, List.length_map]
  intro p hp q hq c c' hc hc'
  obtain ⟨hmem, hchoice⟩ := (htells p hp).choice_eq hnumbers (List.of_mem_zip hp).1 hc
  obtain ⟨-, hchoice'⟩ := (htells q hq).choice_eq hnumbers (List.of_mem_zip hq).1 hc'
  rw [hchoice, hchoice', Option.some.injEq]
  constructor
  · intro hnames
    have hplace : c.place = c'.place := (List.idxOf_inj hmem).mp (choiceName_injective hnames)
    exact hc.eq_of_place_eq hc' hplace
  · rintro rfl
    rfl

end SchemaModels
