import Mathlib.Data.List.Induction
import Mathlib.Data.List.Nodup
import TypedRpc.Client.Basic

/-!
# Methods in groups

The groups are put together one handler at a time. In the end there is one for each namespace, in the order in
which the namespaces were first met, and it has the methods of the namespace in the order of the handlers.
-/

namespace TypedRpc.Client

theorem groups_ofRegistry {registry : Registry} {client : Client} (h : ofRegistry registry = .ok client) :
    client.groups = groupsOf registry.registrations := by
  unfold ofRegistry at h
  split at h
  · cases h
  · cases h
    rfl

/-! ## First occurrences -/

theorem eraseDups_snoc_of_mem {names : List String} {name : String} (h : name ∈ names) :
    (names ++ [name]).eraseDups = names.eraseDups := by
  rw [List.eraseDups_append]
  simp [List.removeAll, h]

theorem eraseDups_snoc_of_notMem {names : List String} {name : String} (h : name ∉ names) :
    (names ++ [name]).eraseDups = names.eraseDups ++ [name] := by
  rw [List.eraseDups_append]
  simp [List.removeAll, h, List.eraseDups_cons]

theorem nodup_eraseDups (names : List String) : names.eraseDups.Nodup := by
  induction names using List.reverseRecOn with
  | nil => exact List.nodup_nil
  | append_singleton names name ih =>
    by_cases h : name ∈ names
    · rwa [eraseDups_snoc_of_mem h]
    · rw [eraseDups_snoc_of_notMem h]
      exact ih.append (List.nodup_singleton name) (by simpa using h)

/-! ## One more method -/

section

variable {names : List String} {ns : String} (methodsOf : String → List Method) (method : Method)

theorem addMethod_of_notMem (h : ns ∉ names) :
    addMethod ns method (names.map fun name => ⟨name, methodsOf name⟩) =
      (names.map fun name => ⟨name, methodsOf name⟩) ++ [⟨ns, [method]⟩] := by
  induction names with
  | nil => rfl
  | cons name names ih =>
    simp only [List.mem_cons, not_or] at h
    rw [List.map_cons, addMethod, if_neg (Ne.symm h.1), ih h.2, List.cons_append]

theorem addMethod_of_mem (h : ns ∈ names) (hnodup : names.Nodup) :
    addMethod ns method (names.map fun name => ⟨name, methodsOf name⟩) =
      names.map fun name => ⟨name, methodsOf name ++ if ns = name then [method] else []⟩ := by
  induction names with
  | nil => exact absurd h List.not_mem_nil
  | cons name names ih =>
    obtain ⟨hname, hnames⟩ := List.nodup_cons.mp hnodup
    by_cases heq : name = ns
    · subst heq
      rw [List.map_cons, addMethod, if_pos rfl, List.map_cons, if_pos rfl]
      -- the other groups are those of other namespaces
      refine congrArg _ (List.map_congr_left fun other hother => ?_)
      have hne : name ≠ other := fun heq => hname (heq ▸ hother)
      rw [if_neg hne, List.append_nil]
    · have hmem : ns ∈ names := (List.mem_cons.mp h).resolve_left (Ne.symm heq)
      rw [List.map_cons, addMethod, if_neg heq, ih hmem hnames, List.map_cons, if_neg (Ne.symm heq), List.append_nil]

end

/-! ## All methods -/

/-- The methods of the handlers in a namespace, in order. -/
def methodsIn (registrations : List Registration) (ns : String) : List Method :=
  (registrations.filter (·.identity.ns = ns)).map methodOf

theorem methodsIn_snoc (registrations : List Registration) (registration : Registration) (ns : String) :
    methodsIn (registrations ++ [registration]) ns =
      methodsIn registrations ns ++ if registration.identity.ns = ns then [methodOf registration] else [] := by
  rw [methodsIn, List.filter_append, List.map_append]
  by_cases h : registration.identity.ns = ns <;> simp [methodsIn, h]

theorem groupsOf_snoc (registrations : List Registration) (registration : Registration) :
    groupsOf (registrations ++ [registration]) =
      addMethod registration.identity.ns (methodOf registration) (groupsOf registrations) := by
  simp [groupsOf]

/-- There is one group for each namespace, with all its methods. -/
theorem groupsOf_eq (registrations : List Registration) :
    groupsOf registrations =
      (registrations.map (·.identity.ns)).eraseDups.map fun ns => ⟨ns, methodsIn registrations ns⟩ := by
  induction registrations using List.reverseRecOn with
  | nil => rfl
  | append_singleton registrations registration ih =>
    rw [groupsOf_snoc, ih, List.map_append, List.map_singleton]
    simp only [methodsIn_snoc]
    by_cases h : registration.identity.ns ∈ registrations.map (·.identity.ns)
    · rw [eraseDups_snoc_of_mem h]
      exact addMethod_of_mem _ _ (List.mem_eraseDups.mpr h) (nodup_eraseDups _)
    · rw [eraseDups_snoc_of_notMem h, addMethod_of_notMem _ _ (fun hmem => h (List.mem_eraseDups.mp hmem)),
        List.map_append, List.map_singleton, if_pos rfl]
      refine congrArg₂ _ (List.map_congr_left fun ns hns => ?_) ?_
      · have hne : registration.identity.ns ≠ ns := fun heq => h (heq ▸ List.mem_eraseDups.mp hns)
        rw [if_neg hne, List.append_nil]
      · -- a namespace that is new has no method yet
        have hnone : methodsIn registrations registration.identity.ns = [] := by
          simp only [methodsIn, List.map_eq_nil_iff, List.filter_eq_nil_iff, decide_eq_true_eq]
          exact fun other hother heq => h (List.mem_map.mpr ⟨other, hother, heq⟩)
        rw [hnone, List.nil_append]

/-- The groups hold the methods of the handlers and no others, each as often as there are handlers for it. -/
theorem groupsOf_perm (registrations : List Registration) :
    ((groupsOf registrations).flatMap fun group => group.methods.map fun method => (group.ns, method)).Perm
      (registrations.map fun registration => (registration.identity.ns, methodOf registration)) := by
  induction registrations using List.reverseRecOn with
  | nil => rfl
  | append_singleton registrations registration ih =>
    rw [groupsOf_snoc, List.map_append, List.map_singleton]
    refine List.Perm.trans ?_ (ih.append_right _)
    generalize groupsOf registrations = groups
    generalize methodOf registration = method
    -- wherever the method goes, it can be moved to the end
    induction groups with
    | nil => simp [addMethod]
    | cons group groups ihgroups =>
      rw [addMethod]
      split
      · rename_i hns
        simp only [List.flatMap_cons, List.map_append, List.map_singleton, hns, List.append_assoc]
        exact (List.perm_append_comm).append_left _
      · simp only [List.flatMap_cons, List.append_assoc]
        exact ihgroups.append_left _

end TypedRpc.Client
