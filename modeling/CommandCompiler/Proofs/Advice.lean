import CommandCompiler.Lint
import CommandCompiler.Proofs.Alignment
import CommandCompiler.Proofs.ErrorText
import Mathlib.Data.List.Sort
/-!
# CommandCompiler.Proofs.Advice

**What advice a schema is given, and that it tells the truth about roles.**
`Schema.Advised` says which lists of advice belong to commands, walking over them
and their fields in the order of the document. For each list of commands there is
just one (`Schema.advised_iff`).

* `IsUndocumented` : documentation that is asked for;
* `InOrderOfFirst` : the items of a list, each once, in the order in which they
  first occur. A list has one such list only (`InOrderOfFirst.unique`);
* `Field.RolesAdvised` : advice on the roles of a field. It names the strongest of
  them, which does not depend on how often and in what order they are given, so it
  is also the role that a parameter is made by (`ParamRole.declared`).

Advice is nothing but text, so it is told by its sentences. The sentence on several
roles still says which of them wins, by its last word (`rolesSentence_winner`).
-/

namespace CommandCompiler

/-! ## Items where they first occur -/

/-- The items of a list, each once, in the order in which they first occur. -/
structure InOrderOfFirst {α : Type} [DecidableEq α] (items distinct : List α) : Prop where
  mem_iff : ∀ a, a ∈ distinct ↔ a ∈ items
  ordered : distinct.Pairwise fun a b => items.idxOf a < items.idxOf b

theorem InOrderOfFirst.unique {α : Type} [DecidableEq α] {items as bs : List α}
    (ha : InOrderOfFirst items as) (hb : InOrderOfFirst items bs) : as = bs := by
  have asymm : Std.Asymm fun a b => items.idxOf a < items.idxOf b :=
    ⟨fun _ _ => Nat.lt_asymm⟩
  exact ha.ordered.eq_of_mem_iff hb.ordered fun a => (ha.mem_iff a).trans (hb.mem_iff a).symm

theorem mem_distinctRoles {seen rs : List Role} {r : Role} :
    r ∈ distinctRoles seen rs ↔ r ∈ rs ∧ r ∉ seen := by
  induction rs generalizing seen with
  | nil => simp [distinctRoles]
  | cons s rs ih =>
      rw [distinctRoles]
      split <;> grind

/-- The roles that are left are in the order in which they first occur among those that are left to
look at. -/
theorem pairwise_distinctRoles (seen rs : List Role) :
    (distinctRoles seen rs).Pairwise fun a b => rs.idxOf a < rs.idxOf b := by
  induction rs generalizing seen with
  | nil => exact .nil
  | cons s rs ih =>
      -- One further place in front moves all roles but the one that stands there.
      have later {seen : List Role} (hs : s ∈ seen) :
          (distinctRoles seen rs).Pairwise fun a b => (s :: rs).idxOf a < (s :: rs).idxOf b := by
        refine (ih seen).imp_of_mem fun {a b} ha hb hab => ?_
        have ne {r : Role} (hr : r ∈ distinctRoles seen rs) : s ≠ r := by
          rintro rfl
          exact (mem_distinctRoles.mp hr).2 hs
        rw [List.idxOf_cons_ne _ (ne ha), List.idxOf_cons_ne _ (ne hb)]
        exact Nat.succ_lt_succ hab
      rw [distinctRoles]
      split
      · rename_i hs
        exact later hs
      · refine List.pairwise_cons.mpr ⟨fun r hr => ?_, later (List.mem_cons_self ..)⟩
        have ne : s ≠ r := by
          rintro rfl
          exact (mem_distinctRoles.mp hr).2 (List.mem_cons_self ..)
        rw [List.idxOf_cons_self, List.idxOf_cons_ne _ ne]
        exact Nat.succ_pos _

theorem inOrderOfFirst_distinctRoles (rs : List Role) :
    InOrderOfFirst rs (distinctRoles [] rs) where
  mem_iff r := by simp [mem_distinctRoles]
  ordered := pairwise_distinctRoles [] rs

/-! ## What the advice is -/

/-- How advice refers to the command at a position: by its name as written, or by the position if
there is no name or an empty one. -/
inductive Variant.ReferredTo (position : Nat) (v : Variant) : String → Prop
  | named {name : String} (h : v.name = some name) (some : name ≠ "") :
      ReferredTo position v s!"command '{name}'"
  | nameless (h : ∀ name ∈ v.name, name = "") : ReferredTo position v s!"command #{position}"

/-- Whether documentation is asked for: there is none, or it is empty. -/
def IsUndocumented (usage : Option String) : Prop := ∀ text ∈ usage, text = ""

/-- The advice on documentation: the given sentence, if documentation is asked for. -/
inductive UsageAdvised (usage : Option String) (sentence : String) : List String → Prop
  | asked (h : IsUndocumented usage) : UsageAdvised usage sentence [sentence]
  | given (h : ¬ IsUndocumented usage) : UsageAdvised usage sentence []

/-- The sentence on a field with several roles: which roles there are, and which of them wins. -/
def rolesSentence (context field : String) (distinct : List Role) (winner : Role) : String :=
  let roles := ", ".intercalate (distinct.map Role.tag)
  s!"{context}: field '{field}' has several role tags ({roles}); " ++ s!"treated as {winner.tag}"

/-- The advice on the roles of a field: a sentence that names all of them and the strongest one, if
two of them differ. -/
inductive Field.RolesAdvised (f : Field) (context : String) : List String → Prop
  | several {distinct : List Role} {winner : Role} (differ : ∃ r ∈ f.roles, ∃ s ∈ f.roles, r ≠ s)
      (order : InOrderOfFirst f.roles distinct) (strongest : winner.IsStrongest f.roles) :
      RolesAdvised f context [rolesSentence context f.name distinct winner]
  | alike (h : ¬ ∃ r ∈ f.roles, ∃ s ∈ f.roles, r ≠ s) : RolesAdvised f context []

/-- The advice on a field: on its documentation, then on its roles. -/
inductive Field.Advised (context : String) (f : Field) : List String → Prop
  | intro {us rs : List String}
      (usage : UsageAdvised f.usage s!"{context}: parameter '{f.name}' has no usage text" us)
      (roles : f.RolesAdvised context rs) : Advised context f (us ++ rs)

/-- The advice on the command at a position: on its documentation, then on each field. -/
inductive Variant.Advised (position : Nat) (v : Variant) : List String → Prop
  | intro {context : String} {us : List String} {blocks : List (List String)}
      (reference : v.ReferredTo position context)
      (usage : UsageAdvised v.usage s!"{context} has no usage text" us)
      (fields : List.Forall₂ (Field.Advised context) v.fields blocks) :
      Advised position v (us ++ blocks.flatten)

/-- The advice on commands, of which the first is at the given position. -/
inductive Schema.Advised : Nat → List Variant → List String → Prop
  | nil (position : Nat) : Advised position [] []
  | cons {position : Nat} {v : Variant} {vs : List Variant} {texts rest : List String}
      (command : v.Advised position texts) (others : Advised (position + 1) vs rest) :
      Advised position (v :: vs) (texts ++ rest)

/-- The last word of a sentence on several roles is the role that wins. -/
theorem rolesSentence_winner {context context' field field' : String}
    {distinct distinct' : List Role} {winner winner' : Role}
    (h : rolesSentence context field distinct winner =
      rolesSentence context' field' distinct' winner') : winner = winner' := by
  have last (c f : String) (rs : List Role) (r : Role) :
      (rolesSentence c f rs r).toList.getLast? = r.tag.toList.getLast? := by
    cases r <;> exact getLast?_append (getLast?_append rfl)
  have same : winner.tag.toList.getLast? = winner'.tag.toList.getLast? := by
    rw [← last context field distinct, h, last]
  revert same
  cases winner <;> cases winner' <;> decide

/-! ## There is just one list of advice -/

theorem Variant.referredTo_iff {position : Nat} {v : Variant} {context : String} :
    v.ReferredTo position context ↔ context = v.lintContext position := by
  constructor
  · rintro (⟨h, some⟩ | h)
    · unfold lintContext
      split <;> simp_all
    · unfold lintContext
      split <;> simp_all
  · rintro rfl
    unfold lintContext
    split
    · rename_i none
      exact .nameless (by simp [none])
    · rename_i empty
      exact .nameless (by simp [empty])
    · rename_i some given
      exact .named given some

theorem usageAdvised_iff {usage : Option String} {sentence : String} {texts : List String} :
    UsageAdvised usage sentence texts ↔ texts = if isMissing usage then [sentence] else [] := by
  have asked : isMissing usage = true ↔ IsUndocumented usage := by
    cases usage <;> simp [isMissing, IsUndocumented]
  by_cases h : IsUndocumented usage
  · rw [if_pos (asked.mpr h)]
    constructor
    · rintro (- | given)
      · rfl
      · exact absurd h given
    · rintro rfl
      exact .asked h
  · rw [if_neg (mt asked.mp h)]
    constructor
    · rintro (asked | -)
      · exact absurd asked h
      · rfl
    · rintro rfl
      exact .given h

/-- The advice on the roles of a field, as it is worked out. -/
def Field.roleWarnings (f : Field) (context : String) : List Warning :=
  match distinctRoles [] f.roles, Role.effective? (distinctRoles [] f.roles) with
  | _ :: _ :: _, some winner => [.severalRoles context f.name (distinctRoles [] f.roles) winner]
  | _, _ => []

/-- Two roles differ exactly if more than one is left when each is taken once. -/
theorem exists_ne_iff_of_inOrderOfFirst {rs distinct : List Role}
    (h : InOrderOfFirst rs distinct) :
    (∃ r ∈ rs, ∃ s ∈ rs, r ≠ s) ↔ ∃ r s rest, distinct = r :: s :: rest := by
  simp only [← h.mem_iff]
  constructor
  · rintro ⟨r, hr, s, hs, ne⟩
    match distinct with
    | [] => cases hr
    | [t] => exact absurd ((List.mem_singleton.mp hr).trans (List.mem_singleton.mp hs).symm) ne
    | t :: u :: rest => exact ⟨t, u, rest, rfl⟩
  · rintro ⟨r, s, rest, rfl⟩
    have before := (List.pairwise_cons.mp h.ordered).1 s (List.mem_cons_self ..)
    refine ⟨r, List.mem_cons_self .., s, by simp, ?_⟩
    rintro rfl
    exact absurd before (Nat.lt_irrefl _)

theorem Field.rolesAdvised_iff {f : Field} {context : String} {texts : List String} :
    f.RolesAdvised context texts ↔ texts = (f.roleWarnings context).map Warning.message := by
  have order := inOrderOfFirst_distinctRoles f.roles
  have several := exists_ne_iff_of_inOrderOfFirst order
  by_cases differ : ∃ r ∈ f.roles, ∃ s ∈ f.roles, r ≠ s
  · obtain ⟨r, s, rest, distinct⟩ := several.mp differ
    have strongest {winner : Role} : Role.effective? (distinctRoles [] f.roles) = some winner ↔
        winner.IsStrongest f.roles := by
      simp only [Role.effective?_eq_some_iff, Role.IsStrongest, order.mem_iff]
    obtain ⟨winner, hwinner⟩ : ∃ winner,
        Role.effective? (distinctRoles [] f.roles) = some winner := by
      rw [← Option.ne_none_iff_exists', Ne, Role.effective?_eq_none_iff, distinct]
      exact List.cons_ne_nil _ _
    have advice : (f.roleWarnings context).map Warning.message =
        [rolesSentence context f.name (distinctRoles [] f.roles) winner] := by
      rw [roleWarnings, hwinner]
      simp only [distinct]
      rfl
    rw [advice]
    constructor
    · rintro (⟨-, order', strongest'⟩ | alike)
      · rw [order'.unique order, strongest'.unique (strongest.mp hwinner)]
      · exact absurd differ alike
    · rintro rfl
      exact .several differ order (strongest.mp hwinner)
  · have none : f.roleWarnings context = [] := by
      unfold roleWarnings
      split
      · rename_i r s rest winner distinct _
        exact absurd (several.mpr ⟨r, s, rest, distinct⟩) differ
      · rfl
    rw [none, List.map_nil]
    constructor
    · rintro (⟨differ', -, -⟩ | -)
      · exact absurd differ' differ
      · rfl
    · rintro rfl
      exact .alike differ

/-- Advice that is given under a condition has its sentence under this condition. -/
theorem map_message_ite {b : Bool} (w : Warning) :
    (if b then [w] else []).map Warning.message = if b then [w.message] else [] := by
  cases b <;> rfl

theorem Field.advised_iff {context : String} {f : Field} {texts : List String} :
    f.Advised context texts ↔ texts = (f.warnings context).map Warning.message := by
  have parts : f.warnings context =
      (if isMissing f.usage then [.undocumentedParameter context f.name] else []) ++
        f.roleWarnings context := rfl
  rw [parts, List.map_append, map_message_ite]
  constructor
  · rintro ⟨usage, roles⟩
    rw [usageAdvised_iff.mp usage, rolesAdvised_iff.mp roles]
    rfl
  · rintro rfl
    exact .intro (usageAdvised_iff.mpr rfl) (rolesAdvised_iff.mpr rfl)

/-- Where each item is related to what a function makes of it, and to nothing else, so are lists. -/
theorem forall₂_iff_eq_map {α β : Type} {R : α → β → Prop} {g : α → β}
    (h : ∀ a b, R a b ↔ b = g a) {as : List α} {bs : List β} :
    List.Forall₂ R as bs ↔ bs = as.map g := by
  have same : R = fun a b => g a = b := by
    funext a b
    exact propext ((h a b).trans eq_comm)
  rw [same, eq_comm, ← List.forall₂_eq_eq_eq, List.forall₂_map_left_iff]

theorem Variant.advised_iff {position : Nat} {v : Variant} {texts : List String} :
    v.Advised position texts ↔ texts = (v.warnings position).map Warning.message := by
  have fields {blocks : List (List String)} :
      List.Forall₂ (Field.Advised (v.lintContext position)) v.fields blocks ↔
        blocks = v.fields.map fun f => (f.warnings (v.lintContext position)).map Warning.message :=
    forall₂_iff_eq_map fun f _ => @Field.advised_iff _ f _
  rw [warnings, List.map_append, map_message_ite, List.map_flatMap, List.flatMap]
  constructor
  · rintro ⟨reference, usage, blocks⟩
    obtain rfl := referredTo_iff.mp reference
    rw [usageAdvised_iff.mp usage, fields.mp blocks]
    rfl
  · rintro rfl
    exact .intro (referredTo_iff.mpr rfl) (usageAdvised_iff.mpr rfl) (fields.mpr rfl)

theorem Schema.advised_iff {position : Nat} {vs : List Variant} {texts : List String} :
    Advised position vs texts ↔
      texts = ((vs.mapIdx fun i v => v.warnings (position + i)).flatten).map Warning.message := by
  induction vs generalizing position texts with
  | nil =>
      constructor
      · rintro ⟨⟩
        rfl
      · rintro rfl
        exact .nil position
  | cons v vs ih =>
      have shift : (fun i (v : Variant) => v.warnings (position + 1 + i)) =
          fun i v => v.warnings (position + (i + 1)) := by
        funext i v
        rw [Nat.add_assoc, Nat.add_comm 1]
      rw [List.mapIdx_cons, List.flatten_cons, List.map_append]
      constructor
      · rintro (_ | ⟨command, others⟩)
        rw [Variant.advised_iff.mp command, ih.mp others, shift]
        rfl
      · rintro rfl
        exact .cons (Variant.advised_iff.mpr rfl) (ih.mpr (by rw [shift]))

/-! ## Roles of parameters -/

/-- The role of the fields that parameters of a role come from. -/
def ParamRole.declared : ParamRole → Role
  | required => .required
  | optional => .optional
  | switch | named => .flag

theorem Field.slot_role_declared (f : Field) (index : Nat) (k : ArgKind) :
    (f.slot index k).param.role.declared = k.role := by
  cases k with
  | required a | optional a => rfl
  | flag type => cases type <;> rfl

/-- The parameter of a field is of the kind that the strongest role of the field makes. -/
theorem Variant.exists_param_of_isStrongest {v : Variant} {position : Int} {c : CompiledCommand}
    (h : v.compile position = .ok c) {j : Nat} {f : Field} (hf : v.fields[j]? = some f)
    {winner : Role} (strongest : winner.IsStrongest f.roles) :
    ∃ p, c.signature.params[j]? = some p ∧ p.name = f.name ∧ p.role.declared = winner := by
  obtain ⟨name, slots, -, -, laidOut, rfl⟩ := exists_slots h
  obtain ⟨k, kind, hslot⟩ := laidOut.getElem?_eq hf
  have params : (v.assemble name slots).signature.params = slots.map (·.param) := rfl
  refine ⟨_, by rw [params, List.getElem?_map, hslot]; rfl, f.slot_param_name _ k, ?_⟩
  rw [f.slot_role_declared]
  exact (Field.hasKind_iff.mp kind).1.unique strongest

/-- **Advice is given where it is due, and it names the role that counts.** The advice on a schema,
whether it compiles or not, reads as the one list that belongs to its commands. If a command
compiles, the role that is said to win among the roles of a field is the one by which its parameter
is supplied. -/
theorem Schema.warnings_exact (s : Schema) :
    (∀ texts, Advised 0 s.commands texts ↔ texts = s.warnings.map Warning.message) ∧
      ∀ v ∈ s.commands, ∀ (position : Int) (c : CompiledCommand), v.compile position = .ok c →
        ∀ (j : Nat) (f : Field), v.fields[j]? = some f →
          ∀ (context : String) (distinct : List Role) (winner : Role),
            f.RolesAdvised context [rolesSentence context f.name distinct winner] →
              ∃ p, c.signature.params[j]? = some p ∧ p.name = f.name ∧
                p.role.declared = winner := by
  refine ⟨fun texts => ?_, fun v _ position c hc j f hf context distinct winner advised => ?_⟩
  · rw [advised_iff]
    simp only [Nat.zero_add]
    rfl
  · generalize said : [rolesSentence context f.name distinct winner] = texts at advised
    cases advised with
    | several _ _ strongest =>
        obtain rfl := rolesSentence_winner (List.singleton_inj.mp said)
        exact Variant.exists_param_of_isStrongest hc hf strongest
    | alike => cases said

/-- A field that is a flag and optional, and is told so. -/
theorem playCommand_advised :
    Schema.Advised 0 [playCommand, {}]
        ((Schema.warnings ⟨[playCommand, {}]⟩).map Warning.message) ∧
      "command 'play': field 'room' has several role tags (flag, optional); treated as optional" ∈
        (Schema.warnings ⟨[playCommand, {}]⟩).map Warning.message ∧
      ∃ c p, playCommand.compile 0 = .ok c ∧ c.signature.params[2]? = some p ∧ p.name = "room" ∧
        p.role.declared = .optional := by
  obtain ⟨exact, truthful⟩ := Schema.warnings_exact ⟨[playCommand, {}]⟩
  have compiles : playCommand.compile 0 = .ok _ := rfl
  obtain ⟨p, param, name, role⟩ := truthful _ (List.mem_cons_self ..) 0 _ compiles 2 _ rfl
    "command 'play'" [.flag, .optional] .optional (Field.rolesAdvised_iff.mpr rfl)
  exact ⟨(exact _).mpr rfl, by decide +kernel, _, p, compiles, param, name, role⟩

end CommandCompiler
