import ShadowLint.Proofs.Dump.DocumentOrder

/-!
# The order of members in a dump

Dumps that differ in the order of members alone hold packages with the same trees, whose names were
resolved in another order.  No verdict depends on that order, so the analyses have one outcome.
-/

namespace ShadowLint

namespace Package
namespace IsReordering

variable {package other : Package} (reordered : package.IsReordering other)
  (once : package.ResolvesOnce) (trees : other.trees = package.trees)
include reordered once trees

omit reordered once in
theorem nodes_eq : package.nodes = other.nodes := by rw [nodes, nodes, trees]

/-- With the trees in one order, the declarations are examined in one order. -/
theorem examinations_eq : package.examinations = other.examinations := by
  have declarations_eq : package.evidence.scan.declarations = other.evidence.scan.declarations :=
    congrArg (List.filterMap Node.declaration?) (nodes_eq trees)
  rw [examinations, examinations, declarations_eq]
  exact List.map_congr_left fun declaration _ => reordered.ofDeclaration_eq once declaration

theorem fault?_eq : package.fault? = other.fault? := by
  have scanFault_eq : package.scanFault? = other.scanFault? := by
    simp only [scanFault?, Scan.fault?, Node.writeFault?, reordered.writtenSymbols_eq once,
      nodes_eq trees]
  rw [fault?, fault?, scanFault_eq, reordered.examinations_eq once trees]

theorem finalReport_eq : package.finalReport = other.finalReport := by
  rw [finalReport, finalReport, reordered.examinations_eq once trees, reordered.path,
    reordered.space]

/-- The analysis comes to the same end in both orders. -/
theorem outcome_eq (config : Config) :
    (package.analyze config).outcome.1 = (other.analyze config).outcome.1 := by
  rw [(package.settles_analyze config).outcome_eq, (other.settles_analyze config).outcome_eq,
    reordered.fault?_eq once trees, reordered.finalReport_eq once trees]

end IsReordering

/-- Of two documents that differ at most in the order of members, a package is read from both or
from none, and the analyses of the two packages break off alike or have the same report. -/
theorem analyze_rearranged {document other : Json} (config : Config)
    (distinct : document.hasDistinctNames) (rearranged : document.Rearranged other) :
    ((∃ package, Dump.package document = .ok package) ↔
        ∃ package, Dump.package other = .ok package) ∧
      ∀ package otherPackage, Dump.package document = .ok package →
        Dump.package other = .ok otherPackage →
          (package.analyze config).outcome.1 = (otherPackage.analyze config).outcome.1 := by
  have alike : document.IsAlike other := ⟨distinct, rearranged⟩
  refine ⟨⟨fun ⟨package, read⟩ => ?_, fun ⟨package, read⟩ => ?_⟩, ?_⟩
  · obtain ⟨otherPackage, other_read, -⟩ := Dump.exists_package_of_alike alike read
    exact ⟨otherPackage, other_read⟩
  · obtain ⟨otherPackage, other_read, -⟩ := Dump.exists_package_of_alike alike.symm read
    exact ⟨otherPackage, other_read⟩
  · intro package otherPackage read other_read
    obtain ⟨reordered, trees⟩ := Dump.isReordering_of_alike alike read other_read
    exact reordered.outcome_eq (resolvesOnce_of_package distinct read) trees config

end Package

namespace Json

mutual

/-- The value with the members of every object in reverse order. -/
def reversed : Json → Json
  | .array items => .array (reversedItems items)
  | .object members => .object (reversedMembers members).reverse
  | json => json

/-- The items, each with the members of its objects in reverse order. -/
def reversedItems : List Json → List Json
  | [] => []
  | item :: rest => reversed item :: reversedItems rest

/-- The members, each with the members of the objects in its value in reverse order. -/
def reversedMembers : List (String × Json) → List (String × Json)
  | [] => []
  | (name, value) :: rest => (name, reversed value) :: reversedMembers rest

end

theorem reversedItems_eq (items : List Json) : reversedItems items = items.map reversed := by
  induction items with
  | nil => rfl
  | cons item rest ih => rw [reversedItems, ih, List.map_cons]

theorem reversedMembers_eq (members : List (String × Json)) :
    reversedMembers members = members.map fun member => (member.1, member.2.reversed) := by
  induction members with
  | nil => rfl
  | cons member rest ih => rw [reversedMembers, ih, List.map_cons]

theorem rearranged_reversed {json : Json} (distinct : json.hasDistinctNames) :
    json.Rearranged json.reversed := by
  induction json using Json.induction with
  | scalar json scalar =>
      cases json with
      | array | object => cases scalar
      | _ => exact .refl _
  | array items ih =>
      have all_distinct := hasDistinctNames_array_iff.mp distinct
      rw [reversed, reversedItems_eq]
      refine .array (List.length_map _).symm fun index item other item_eq other_eq => ?_
      have mem := List.mem_of_getElem? item_eq
      rw [List.getElem?_map, item_eq, Option.map_some, Option.some.injEq] at other_eq
      exact other_eq ▸ ih item mem (all_distinct item mem)
  | object members ih =>
      obtain ⟨names_distinct, all_distinct⟩ := hasDistinctNames_object_iff.mp distinct
      have names_eq : (reversedMembers members).map Prod.fst = members.map Prod.fst := by
        rw [reversedMembers_eq, List.map_map]
        rfl
      rw [reversed]
      refine .object ?_ fun name value other mem other_mem => ?_
      · rw [List.map_reverse, names_eq]
        exact (List.reverse_perm _).symm
      · rw [List.mem_reverse, reversedMembers_eq, List.mem_map] at other_mem
        obtain ⟨⟨_, found⟩, found_mem, same⟩ := other_mem
        obtain ⟨rfl, rfl⟩ := Prod.mk.inj same
        obtain rfl : value = found := Option.some.inj
          ((Dump.lookup_eq_some_of_mem names_distinct mem).symm.trans
            (Dump.lookup_eq_some_of_mem names_distinct found_mem))
        exact ih _ mem (all_distinct _ mem)

end Json

namespace Specimen

/-- Line by line: `x := y` declares an inner `x`, and `x = x` writes the value of the outer one to
it. -/
def overwritten : List Json :=
  [assignment ":=" [name "x" 21 [("def", .int 1)]] [name "y" 26 []],
    assignment "=" [name "x" 31 [("use", .int 1)]] [name "x" 35 [("use", .int 0)]]]

/-- With the members in reverse order, the outer `x` is resolved before the inner one, and the same
declaration is reported. -/
theorem analyze_overwritten_reversed :
    ∃ other, Dump.package (document overwritten).reversed = .ok other ∧
      (package overwritten).resolution.uses.map (·.1.position) = [31, 35] ∧
      other.resolution.uses.map (·.1.position) = [35, 31] ∧
      (package overwritten).finalReport.diagnostics.map Diagnostic.start = [21] ∧
      (other.analyze ⟨false⟩).outcome.1 = .ok (package overwritten).finalReport := by
  have distinct : (document overwritten).hasDistinctNames := by decide +kernel
  have read : Dump.package (document overwritten) = .ok (package overwritten) := rfl
  have complete : (package overwritten).fault? = none := by decide +kernel
  have analyzed := ((package overwritten).settles_analyze ⟨false⟩).outcome_eq_ok_iff.mpr
    ⟨complete, rfl⟩
  obtain ⟨read_iff, same⟩ :=
    Package.analyze_rearranged ⟨false⟩ distinct (Json.rearranged_reversed distinct)
  obtain ⟨other, other_read⟩ := read_iff.mp ⟨_, read⟩
  have other_uses : (Dump.package (document overwritten).reversed).map
      (·.resolution.uses.map (·.1.position)) = .ok [35, 31] := by
    rfl
  rw [other_read] at other_uses
  exact ⟨other, other_read, by decide +kernel, Except.ok.inj other_uses, by decide +kernel,
    (same _ other read other_read).symm.trans analyzed⟩

end Specimen
end ShadowLint
