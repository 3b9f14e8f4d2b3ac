import DirectoryClient.Proofs.Tlv.Element
import DirectoryClient.Tlv.Tree

namespace DirectoryClient.Tlv

theorem Tag.isConstructed_eq_true_iff {tag : Tag} : tag.isConstructed = true ↔ tag &&& 0x20 ≠ 0 :=
  bne_iff_ne

theorem Tag.isConstructed_eq_false_iff {tag : Tag} : tag.isConstructed = false ↔ tag &&& 0x20 = 0 :=
  bne_eq_false_iff_eq

namespace Tree

/-- A tree that can be written and read back: each tag is one byte and says whether it has branches,
and no value takes more than four length bytes. -/
inductive IsReadable : Tree → Prop where
  | leaf {tag : Tag} {value : List UInt8} (primitive : tag &&& 0x20 = 0)
      (single : tag &&& 0x1F ≠ 0x1F) (short : value.length < 2 ^ 32) : IsReadable (.leaf tag value)
  | branch {tag : Tag} {below : List Tree} (constructed : tag &&& 0x20 ≠ 0)
      (single : tag &&& 0x1F ≠ 0x1F)
      (short : (Element.constructed tag (below.map toElement)).value.length < 2 ^ 32)
      (each : ∀ tree ∈ below, IsReadable tree) : IsReadable (.branch tag below)

theorem IsReadable.toElement {tree : Tree} (readable : tree.IsReadable) :
    tree.toElement.IsReadable := by
  cases readable with
  | leaf primitive single short =>
      rw [Tree.toElement]
      exact ⟨Tag.isMultiByte_eq_false_iff.mpr single, short⟩
  | branch constructed single short each =>
      rw [Tree.toElement]
      exact ⟨Tag.isMultiByte_eq_false_iff.mpr single, short⟩

theorem ofElement_of_primitive {element : Element} (whole : element.isConstructed = false) :
    ofElement element = .leaf element.tag element.value := by
  rw [ofElement, whole]
  rfl

theorem ofElement_of_children {element : Element} {below : List Element}
    (divided : element.isConstructed = true) (found : element.children = .ok below) :
    ofElement element = .branch element.tag (below.map ofElement) := by
  rw [ofElement, if_pos divided]
  split
  · next failed => cases failed.symm.trans found
  · next same =>
      cases same.symm.trans found
      simp

theorem ofElement_toElement {tree : Tree} (readable : tree.IsReadable) :
    ofElement tree.toElement = tree := by
  induction readable with
  | leaf primitive single short =>
      rw [toElement, ofElement_of_primitive (Tag.isConstructed_eq_false_iff.mpr primitive)]
  | @branch tag below constructed single short each ih =>
      have children : (Element.constructed tag (below.map toElement)).children =
          .ok (below.map toElement) := by
        apply Element.children_constructed _ short
        intro element member
        obtain ⟨tree, present, rfl⟩ := List.mem_map.mp member
        exact (each tree present).toElement.tag
      have again : (below.map toElement).map ofElement = below := by
        rw [List.map_map]
        exact (List.map_congr_left ih).trans (List.map_id below)
      rw [toElement,
        ofElement_of_children (Tag.isConstructed_eq_true_iff.mpr constructed) children, again]
      rfl

end Tree

/-- A tree is read back from its bytes as it was, at every level. -/
theorem trees_read_back {tree : Tree} (readable : tree.IsReadable) :
    (Element.decodeExact tree.toElement.encode).map Tree.ofElement = .ok tree := by
  rw [Element.decodeExact_encode readable.toElement]
  exact congrArg Except.ok (Tree.ofElement_toElement readable)

/-- One tag at three levels, and values that look like elements. -/
def Tree.nested : Tree :=
  .branch 0xA0
    [.branch 0xA0 [.branch 0xA0 [], .leaf 0x04 [0xA0, 0x00], .leaf 0x80 (List.replicate 200 0xA0)],
      .leaf 0x04 [], .branch 0x30 [.leaf 0x04 [0x30]]]

theorem trees_read_back_nested :
    Tree.nested.IsReadable ∧
      (Element.decodeExact Tree.nested.toElement.encode).map Tree.ofElement = .ok Tree.nested := by
  have first : Tree.IsReadable (.branch 0xA0
      [.branch 0xA0 [], .leaf 0x04 [0xA0, 0x00], .leaf 0x80 (List.replicate 200 0xA0)]) := by
    refine .branch (by decide) (by decide) ?_ ?_
    · simp only [Tree.toElement, List.map_cons, List.map_nil]
      decide +kernel
    · simp only [List.forall_mem_cons]
      exact ⟨.branch (by decide) (by decide) (by decide) (List.forall_mem_nil _),
        .leaf (by decide) (by decide) (by decide), .leaf (by decide) (by decide) (by decide +kernel),
        List.forall_mem_nil _⟩
  have last : Tree.IsReadable (.branch 0x30 [.leaf 0x04 [0x30]]) := by
    refine .branch (by decide) (by decide) ?_ ?_
    · simp only [Tree.toElement, List.map_cons, List.map_nil]
      decide +kernel
    · simp only [List.forall_mem_cons]
      exact ⟨.leaf (by decide) (by decide) (by decide), List.forall_mem_nil _⟩
  have readable : Tree.nested.IsReadable := by
    refine .branch (by decide) (by decide) ?_ ?_
    · simp only [Tree.toElement, List.map_cons, List.map_nil]
      decide +kernel
    · simp only [List.forall_mem_cons]
      exact ⟨first, .leaf (by decide) (by decide) (by decide), last, List.forall_mem_nil _⟩
  exact ⟨readable, trees_read_back readable⟩

end DirectoryClient.Tlv
