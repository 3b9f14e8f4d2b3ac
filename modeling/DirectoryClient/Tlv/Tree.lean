import DirectoryClient.Tlv.Element

namespace DirectoryClient.Tlv

inductive Tree where
  /-- A value that is not divided further. -/
  | leaf (tag : Tag) (value : List UInt8)
  /-- A value that is a sequence of elements. -/
  | branch (tag : Tag) (below : List Tree)
  /-- A value that should be a sequence of elements and is not. -/
  | broken (tag : Tag) (value : List UInt8) (reason : DecodeError)
deriving Repr

namespace Element

theorem length_value_lt_of_decodeSiblings {bytes : List UInt8} {elements : List Element}
    (found : decodeSiblings bytes = .ok elements) {element : Element}
    (member : element ∈ elements) : element.value.length < bytes.length := by
  induction bytes using decodeSiblings.induct generalizing elements with
  | case1 bytes blank =>
      rw [decodeSiblings, if_pos blank] at found
      cases found
      cases member
  | case2 bytes blank reason failed =>
      rw [decodeSiblings, if_neg blank] at found
      split at found <;> simp_all
  | case3 bytes blank first rest front reason failed ih =>
      rw [decodeSiblings, if_neg blank] at found
      split at found <;> simp_all
  | case4 bytes blank first rest front others tail ih =>
      have shorter := length_add_length_lt_of_read front
      rw [decodeSiblings, if_neg blank] at found
      split at found
      · simp_all
      next first' rest' front' =>
        rw [front] at front'
        cases front'
        rw [tail] at found
        cases found
        cases member with
        | head => omega
        | tail _ later =>
            have := ih tail later
            omega

end Element

namespace Tree

/-- Unfolds an element as far as its tags say that values hold further elements. -/
def ofElement (element : Element) : Tree :=
  if element.isConstructed then
    match _ : element.children with
    | .error reason => .broken element.tag element.value reason
    | .ok below => .branch element.tag (below.attach.map fun ⟨child, _⟩ => ofElement child)
  else
    .leaf element.tag element.value
termination_by element.value.length
decreasing_by
  exact Element.length_value_lt_of_decodeSiblings ‹element.children = _› ‹child ∈ below›

def toElement : Tree → Element
  | .leaf tag value => ⟨tag, value⟩
  | .branch tag below => .constructed tag (below.map toElement)
  | .broken tag value _ => ⟨tag, value⟩

end Tree

end DirectoryClient.Tlv
