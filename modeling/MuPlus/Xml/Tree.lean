import MuPlus.Xml.Escape
import MuPlus.Lib.ExceptOk

/-!
# MuPlus.Xml.Tree

**Printing an XML tree** (`XmlSupportPkg/Library/XmlTreeLib/XmlTreeLib.c`). `CalculateXmlDocSize`
works out the length of the document that `XmlTreeToString` then prints, with `AsciiStrCatS`,
into a buffer of that size and its NUL. Both walk the tree (`_CaclSizeRecursively`,
`_ToStringRecursively`) down to `MAX_RECURSIVE_LEVEL`, in one shortened notation: the
declaration, `<` and the name, each attribute as ` name="value"`, then ` />` for a node with
neither value nor children, and otherwise `>`, the value, the children and `</name>`. With
`Escaped`, the size pass counts each value's `_GetXmlEscapedLength` and the print writes what
`XmlEscape` returns.

What the platform decides (whether an allocation succeeds, `PcdMaximumAsciiStringLength`, which
`AsciiStrCatS` checks the buffer against) is an `XmlEnv`.

* `xmlDocument`: the document of a node;
* `caclSizeRecursively_eq`, `toStringRecursively_eq`: on a node the library can print
  (`Printable`: within `MAX_RECURSIVE_LEVEL`, and with `Escaped` every value non-empty and within
  its maximum), the size pass counts the document's length and the print writes the document.
-/

namespace MuPlus.Xml

/-! ## Trees -/

/-- `MAX_RECURSIVE_LEVEL`. -/
def maxRecursiveLevel : Nat := 25

/-- `XML_MAX_ATTRIBUTE_VALUE_LENGTH`. -/
def xmlMaxAttributeValueLength : Nat := 1024

/-- `XML_MAX_ELEMENT_VALUE_LENGTH`. -/
def xmlMaxElementValueLength : Nat := 0xFFFF

/-- An `XmlAttribute`: its `Name` and `Value`. -/
structure XmlAttribute where
  name : List UInt8
  value : List UInt8
  deriving DecidableEq, Repr

/-- An `XmlNode` and its subtree: `XmlDeclaration.Declaration`, `Name` and `Value` (`none` for
NULL), the attribute list and the children list in list order; `NumChildren` is the children's
number. -/
inductive XmlNode where
  | mk (declaration : Option (List UInt8)) (name : List UInt8) (value : Option (List UInt8))
      (attributes : List XmlAttribute) (children : List XmlNode)

/-- What the library gets from the platform: whether an `AllocatePool` of a size succeeds, and
`ASCII_RSIZE_MAX` (`PcdMaximumAsciiStringLength`, 0 for no limit). -/
structure XmlEnv where
  allocatePool : Nat → Bool
  asciiRsizeMax : Nat

/-! ## The document -/

/-- A value as the document holds it: escaped with `Escaped`, as it is otherwise. -/
def valueText (escaped : Bool) (value : List UInt8) : List UInt8 :=
  if escaped then xmlEscapeString value else value

/-- An attribute as the document holds it: ` name="value"`. -/
def attributeText (escaped : Bool) (att : XmlAttribute) : List UInt8 :=
  [0x20] ++ att.name ++ [0x3D, 0x22] ++ valueText escaped att.value ++ [0x22]

mutual

/-- **The document of a node**, in the library's shortened notation. -/
def xmlDocument (escaped : Bool) : XmlNode → List UInt8
  | .mk declaration name value attributes children =>
      declaration.getD [] ++ [0x3C] ++ name ++ attributes.flatMap (attributeText escaped) ++
        if value.isNone = true ∧ children.length = 0 then [0x20, 0x2F, 0x3E]
        else [0x3E] ++ (value.map (valueText escaped)).getD [] ++
          xmlDocumentList escaped children ++ [0x3C, 0x2F] ++ name ++ [0x3E]

/-- The documents of nodes one after the other. -/
def xmlDocumentList (escaped : Bool) : List XmlNode → List UInt8
  | [] => []
  | node :: nodes => xmlDocument escaped node ++ xmlDocumentList escaped nodes

end

/-! ## `CalculateXmlDocSize` -/

/-- What a value adds to the size: its `_GetXmlEscapedLength` with `Escaped`, its `AsciiStrLen`
otherwise. -/
def valueSize (escaped : Bool) (value : List UInt8) (maxLength : Nat) : Nat :=
  if escaped then getXmlEscapedLength value maxLength else value.length

mutual

/-- `_CaclSizeRecursively (Node, Escaped, &Size, Level)`: the status and `*Size`. -/
def caclSizeRecursively (escaped : Bool) : XmlNode → Nat → Nat → EfiStatus × Nat
  | .mk declaration name value attributes children, size, level =>
      if maxRecursiveLevel < level then (.badBufferSize, size)
      else
        let size := size + (declaration.map List.length).getD 0
        -- `<` and the name
        let size := size + name.length + 1
        -- each attribute: ` `, its name, `="`, its value and `"`
        let size := attributes.foldl
          (fun size att => size + att.name.length + 4 +
            valueSize escaped att.value xmlMaxAttributeValueLength) size
        if value.isNone = true ∧ children.length = 0 then (.success, size + 3)
        else
          -- `>`, the value, the children, then `</`, the name and `>`
          let size := size + 1 +
            (value.map fun v => valueSize escaped v xmlMaxElementValueLength).getD 0
          let r := caclSizeChildren escaped children size (level + 1)
          if r.1.isError then r else (.success, r.2 + name.length + 3)

/-- The children loop of `_CaclSizeRecursively`. -/
def caclSizeChildren (escaped : Bool) : List XmlNode → Nat → Nat → EfiStatus × Nat
  | [], size, _ => (.success, size)
  | child :: children, size, level =>
      let r := caclSizeRecursively escaped child size level
      if r.1.isError then r else caclSizeChildren escaped children r.2 level

end

/-- `CalculateXmlDocSize (Node, Escaped, &Size)`: the status and `*Size`. -/
def calculateXmlDocSize (escaped : Bool) (node : XmlNode) : EfiStatus × Nat :=
  caclSizeRecursively escaped node 0 0

/-! ## `XmlTreeToString` -/

/-- `AsciiStrCatS (String, BufferSize, Source)`, whose error ends the print. -/
def catS (env : XmlEnv) (bufferSize : Nat) (string source : List UInt8) :
    Except EfiStatus (List UInt8) :=
  let r := asciiStrCatS env.asciiRsizeMax string bufferSize source
  if r.1.isError then .error r.1 else .ok r.2

/-- A value printed: with `Escaped` by `XmlEscape` into a buffer of its own and then appended,
otherwise appended as it is. -/
def catValue (env : XmlEnv) (escaped : Bool) (bufferSize maxLength : Nat)
    (string value : List UInt8) : Except EfiStatus (List UInt8) :=
  if escaped then
    match xmlEscape env.allocatePool value maxLength with
    | .error status => .error status
    | .ok escapedString => catS env bufferSize string escapedString
  else catS env bufferSize string value

/-- The attribute loop of `_ToStringRecursively`. -/
def attributesToString (env : XmlEnv) (escaped : Bool) (bufferSize : Nat) :
    List XmlAttribute → List UInt8 → Except EfiStatus (List UInt8)
  | [], string => .ok string
  | att :: atts, string => do
      let string ← catS env bufferSize string [0x20]
      let string ← catS env bufferSize string att.name
      let string ← catS env bufferSize string [0x3D, 0x22]
      let string ← catValue env escaped bufferSize xmlMaxAttributeValueLength string att.value
      let string ← catS env bufferSize string [0x22]
      attributesToString env escaped bufferSize atts string

mutual

/-- `_ToStringRecursively (Node, BufferSize, String, Level, Escaped)`: what `String` holds after
it, or its error. -/
def toStringRecursively (env : XmlEnv) (escaped : Bool) (bufferSize : Nat) :
    XmlNode → List UInt8 → Nat → Except EfiStatus (List UInt8)
  | .mk declaration name value attributes children, string, level =>
      if maxRecursiveLevel < level then .error .badBufferSize
      else do
        let string ← declaration.elim (pure string) (catS env bufferSize string)
        let string ← catS env bufferSize string [0x3C]
        let string ← catS env bufferSize string name
        let string ← attributesToString env escaped bufferSize attributes string
        if value.isNone = true ∧ children.length = 0 then
          catS env bufferSize string [0x20, 0x2F, 0x3E]
        else
          let string ← catS env bufferSize string [0x3E]
          let string ← value.elim (pure string)
            (catValue env escaped bufferSize xmlMaxElementValueLength string)
          let string ← childrenToString env escaped bufferSize children string (level + 1)
          let string ← catS env bufferSize string [0x3C, 0x2F]
          let string ← catS env bufferSize string name
          catS env bufferSize string [0x3E]

/-- The children loop of `_ToStringRecursively`. -/
def childrenToString (env : XmlEnv) (escaped : Bool) (bufferSize : Nat) :
    List XmlNode → List UInt8 → Nat → Except EfiStatus (List UInt8)
  | [], string, _ => .ok string
  | child :: children, string, level => do
      let string ← toStringRecursively env escaped bufferSize child string level
      childrenToString env escaped bufferSize children string level

end

/-- `XmlTreeToString (Node, Escaped, &BufferSize, &String)`: `*BufferSize` and the string. -/
def xmlTreeToString (env : XmlEnv) (node : XmlNode) (escaped : Bool) :
    Except EfiStatus (Nat × List UInt8) :=
  let r := calculateXmlDocSize escaped node
  if r.1.isError then .error r.1
  else
    -- and the NUL
    let size := r.2 + 1
    if env.allocatePool size = false then .error .outOfResources
    else (toStringRecursively env escaped size node [] 0).map fun string => (size, string)

/-! ## Printable trees -/

/-- A value the print writes: with `Escaped`, one `XmlEscape` takes, non-empty and within its
maximum. -/
def ValueFits (escaped : Bool) (value : List UInt8) (maxLength : Nat) : Prop :=
  escaped = true → value ≠ [] ∧ value.length ≤ maxLength

mutual

/-- A node at `level` whose subtree the library prints: no deeper than `MAX_RECURSIVE_LEVEL`,
with every value fitting. -/
def Printable (escaped : Bool) : XmlNode → Nat → Prop
  | .mk _ _ value attributes children, level =>
      level ≤ maxRecursiveLevel ∧
        (∀ att ∈ attributes, ValueFits escaped att.value xmlMaxAttributeValueLength) ∧
        (∀ v ∈ value, ValueFits escaped v xmlMaxElementValueLength) ∧
        PrintableList escaped children (level + 1)

/-- Nodes at `level` that the library prints. -/
def PrintableList (escaped : Bool) : List XmlNode → Nat → Prop
  | [], _ => True
  | node :: nodes, level => Printable escaped node level ∧ PrintableList escaped nodes level

end

/-! ## The size pass -/

theorem valueSize_of_fits {escaped : Bool} {value : List UInt8} {maxLength : Nat}
    (h : ValueFits escaped value maxLength) :
    valueSize escaped value maxLength = (valueText escaped value).length := by
  cases escaped with
  | false => rfl
  | true => exact getXmlEscapedLength_of_le (h rfl).2

theorem length_attributeText (escaped : Bool) (att : XmlAttribute) :
    (attributeText escaped att).length = att.name.length + 4 + (valueText escaped att.value).length := by
  simp only [attributeText, List.length_append, List.length_cons, List.length_nil]
  omega

/-- The attribute loop of the size pass counts the attributes' text. -/
theorem foldl_attributes_size {escaped : Bool} :
    ∀ (attributes : List XmlAttribute) (size : Nat),
      (∀ att ∈ attributes, ValueFits escaped att.value xmlMaxAttributeValueLength) →
        attributes.foldl (fun size att => size + att.name.length + 4 +
            valueSize escaped att.value xmlMaxAttributeValueLength) size =
          size + (attributes.flatMap (attributeText escaped)).length
  | [], size, _ => rfl
  | att :: atts, size, h => by
      rw [List.foldl_cons, valueSize_of_fits (h att List.mem_cons_self),
        foldl_attributes_size atts _ fun a ha => h a (List.mem_cons_of_mem att ha),
        List.flatMap_cons, List.length_append, length_attributeText]
      omega

/-- What a node's value adds to the size: the length of its text. -/
theorem valueSize_getD {escaped : Bool} {value : Option (List UInt8)}
    (h : ∀ v ∈ value, ValueFits escaped v xmlMaxElementValueLength) :
    (value.map fun v => valueSize escaped v xmlMaxElementValueLength).getD 0 =
      ((value.map (valueText escaped)).getD []).length := by
  cases value with
  | none => rfl
  | some v => exact valueSize_of_fits (h v rfl)

mutual

/-- **The size pass counts the document**: on a printable node, `_CaclSizeRecursively` adds the
length of the node's document to `*Size`. -/
theorem caclSizeRecursively_eq {escaped : Bool} :
    ∀ (node : XmlNode) (size level : Nat), Printable escaped node level →
      caclSizeRecursively escaped node size level = (.success, size + (xmlDocument escaped node).length)
  | .mk declaration name value attributes children, size, level, h => by
      obtain ⟨hlevel, hatts, hvalue, hchildren⟩ := h
      have hdecl : (declaration.map List.length).getD 0 = (declaration.getD []).length := by
        cases declaration <;> rfl
      rw [caclSizeRecursively, if_neg (by omega), xmlDocument]
      simp only [foldl_attributes_size attributes _ hatts, hdecl]
      by_cases hleaf : value.isNone = true ∧ children.length = 0
      · -- ` />`
        simp only [if_pos hleaf, List.length_append, List.length_cons, List.length_nil]
        congr 1
        omega
      · simp only [if_neg hleaf, valueSize_getD hvalue,
          caclSizeChildren_eq children _ (level + 1) hchildren, EfiStatus.isError,
          Bool.false_eq_true, ↓reduceIte, List.length_append, List.length_cons, List.length_nil]
        congr 1
        omega

/-- The children loop of the size pass counts the children's documents. -/
theorem caclSizeChildren_eq {escaped : Bool} :
    ∀ (nodes : List XmlNode) (size level : Nat), PrintableList escaped nodes level →
      caclSizeChildren escaped nodes size level = (.success, size + (xmlDocumentList escaped nodes).length)
  | [], size, _, _ => by simp [caclSizeChildren, xmlDocumentList]
  | node :: nodes, size, level, h => by
      rw [caclSizeChildren, caclSizeRecursively_eq node size level h.1]
      simp only [EfiStatus.isError, Bool.false_eq_true, ↓reduceIte]
      rw [caclSizeChildren_eq nodes _ level h.2, xmlDocumentList, List.length_append, Nat.add_assoc]

end

/-! ## The print -/

section Print

variable {env : XmlEnv} {escaped : Bool} {bufferSize : Nat}

theorem catS_of_lt (henv : env.asciiRsizeMax = 0 ∨ bufferSize ≤ env.asciiRsizeMax)
    {string source : List UInt8} (h : string.length + source.length < bufferSize) :
    catS env bufferSize string source = .ok (string ++ source) := by
  simp [catS, asciiStrCatS_of_lt h henv, EfiStatus.isError]

theorem catValue_of_lt (halloc : ∀ n, env.allocatePool n = true)
    (henv : env.asciiRsizeMax = 0 ∨ bufferSize ≤ env.asciiRsizeMax) {maxLength : Nat}
    {string value : List UInt8} (hv : ValueFits escaped value maxLength)
    (h : string.length + (valueText escaped value).length < bufferSize) :
    catValue env escaped bufferSize maxLength string value = .ok (string ++ valueText escaped value) := by
  cases escaped with
  | false => exact catS_of_lt henv h
  | true =>
      obtain ⟨hne, hmax⟩ := hv rfl
      simp only [catValue, ↓reduceIte,
        xmlEscape_eq (List.length_pos_iff.mpr hne) hmax (halloc _)]
      exact catS_of_lt henv h

/-- The attribute loop of the print writes the attributes' text. -/
theorem attributesToString_of_lt (halloc : ∀ n, env.allocatePool n = true)
    (henv : env.asciiRsizeMax = 0 ∨ bufferSize ≤ env.asciiRsizeMax) :
    ∀ (attributes : List XmlAttribute) (string : List UInt8),
      (∀ att ∈ attributes, ValueFits escaped att.value xmlMaxAttributeValueLength) →
        string.length + (attributes.flatMap (attributeText escaped)).length < bufferSize →
          attributesToString env escaped bufferSize attributes string =
            .ok (string ++ attributes.flatMap (attributeText escaped))
  | [], string, _, _ => by simp [attributesToString]
  | att :: atts, string, h, hlen => by
      rw [List.flatMap_cons, List.length_append, length_attributeText] at hlen
      have hv := h att List.mem_cons_self
      simp only [attributesToString]
      rw [catS_of_lt henv (by simp only [List.length_cons, List.length_nil]; omega),
        ExceptOk.ok_bind,
        catS_of_lt henv (by simp only [List.length_append, List.length_cons, List.length_nil]; omega),
        ExceptOk.ok_bind,
        catS_of_lt henv (by simp only [List.length_append, List.length_cons, List.length_nil]; omega),
        ExceptOk.ok_bind,
        catValue_of_lt halloc henv hv
          (by simp only [List.length_append, List.length_cons, List.length_nil]; omega),
        ExceptOk.ok_bind,
        catS_of_lt henv (by simp only [List.length_append, List.length_cons, List.length_nil]; omega),
        ExceptOk.ok_bind,
        attributesToString_of_lt halloc henv atts _ (fun a ha => h a (List.mem_cons_of_mem att ha))
          (by simp only [List.length_append, List.length_cons, List.length_nil]; omega)]
      simp [attributeText]

theorem elim_catS (henv : env.asciiRsizeMax = 0 ∨ bufferSize ≤ env.asciiRsizeMax)
    {string : List UInt8} {declaration : Option (List UInt8)}
    (h : string.length + (declaration.getD []).length < bufferSize) :
    declaration.elim (pure string) (catS env bufferSize string) = .ok (string ++ declaration.getD []) := by
  cases declaration with
  | none => simp [pure, Except.pure]
  | some d => exact catS_of_lt henv h

theorem elim_catValue (halloc : ∀ n, env.allocatePool n = true)
    (henv : env.asciiRsizeMax = 0 ∨ bufferSize ≤ env.asciiRsizeMax) {string : List UInt8}
    {value : Option (List UInt8)} (hv : ∀ v ∈ value, ValueFits escaped v xmlMaxElementValueLength)
    (h : string.length + ((value.map (valueText escaped)).getD []).length < bufferSize) :
    value.elim (pure string) (catValue env escaped bufferSize xmlMaxElementValueLength string) =
      .ok (string ++ (value.map (valueText escaped)).getD []) := by
  cases value with
  | none => simp [pure, Except.pure]
  | some v => exact catValue_of_lt halloc henv (hv v rfl) h

mutual

/-- **The print writes the document**: on a printable node whose document fits the buffer after
what it holds, `_ToStringRecursively` appends the document. -/
theorem toStringRecursively_eq (halloc : ∀ n, env.allocatePool n = true)
    (henv : env.asciiRsizeMax = 0 ∨ bufferSize ≤ env.asciiRsizeMax) :
    ∀ (node : XmlNode) (string : List UInt8) (level : Nat), Printable escaped node level →
      string.length + (xmlDocument escaped node).length < bufferSize →
        toStringRecursively env escaped bufferSize node string level =
          .ok (string ++ xmlDocument escaped node)
  | .mk declaration name value attributes children, string, level, h, hlen => by
      obtain ⟨hlevel, hatts, hvalue, hchildren⟩ := h
      rw [xmlDocument] at hlen ⊢
      rw [toStringRecursively, if_neg (by omega)]
      by_cases hleaf : value.isNone = true ∧ children.length = 0
      · -- the start tag and ` />`
        simp only [if_pos hleaf, List.length_append, List.length_cons, List.length_nil] at hlen ⊢
        rw [elim_catS henv (by omega), ExceptOk.ok_bind,
          catS_of_lt henv (by simp only [List.length_append, List.length_cons, List.length_nil]; omega),
          ExceptOk.ok_bind,
          catS_of_lt henv (by simp only [List.length_append, List.length_cons, List.length_nil]; omega),
          ExceptOk.ok_bind,
          attributesToString_of_lt halloc henv attributes _ hatts
            (by simp only [List.length_append, List.length_cons, List.length_nil]; omega),
          ExceptOk.ok_bind,
          catS_of_lt henv (by simp only [List.length_append, List.length_cons, List.length_nil]; omega)]
        simp
      · -- the start tag, `>`, the value, the children and the end tag
        simp only [if_neg hleaf, List.length_append, List.length_cons, List.length_nil] at hlen ⊢
        rw [elim_catS henv (by omega), ExceptOk.ok_bind,
          catS_of_lt henv (by simp only [List.length_append, List.length_cons, List.length_nil]; omega),
          ExceptOk.ok_bind,
          catS_of_lt henv (by simp only [List.length_append, List.length_cons, List.length_nil]; omega),
          ExceptOk.ok_bind,
          attributesToString_of_lt halloc henv attributes _ hatts
            (by simp only [List.length_append, List.length_cons, List.length_nil]; omega),
          ExceptOk.ok_bind,
          catS_of_lt henv (by simp only [List.length_append, List.length_cons, List.length_nil]; omega),
          ExceptOk.ok_bind,
          elim_catValue halloc henv hvalue
            (by simp only [List.length_append, List.length_cons, List.length_nil]; omega),
          ExceptOk.ok_bind,
          childrenToString_eq halloc henv children _ (level + 1) hchildren
            (by simp only [List.length_append, List.length_cons, List.length_nil]; omega),
          ExceptOk.ok_bind,
          catS_of_lt henv (by simp only [List.length_append, List.length_cons, List.length_nil]; omega),
          ExceptOk.ok_bind,
          catS_of_lt henv (by simp only [List.length_append, List.length_cons, List.length_nil]; omega),
          ExceptOk.ok_bind,
          catS_of_lt henv (by simp only [List.length_append, List.length_cons, List.length_nil]; omega)]
        simp

/-- The children loop of the print writes the children's documents. -/
theorem childrenToString_eq (halloc : ∀ n, env.allocatePool n = true)
    (henv : env.asciiRsizeMax = 0 ∨ bufferSize ≤ env.asciiRsizeMax) :
    ∀ (nodes : List XmlNode) (string : List UInt8) (level : Nat), PrintableList escaped nodes level →
      string.length + (xmlDocumentList escaped nodes).length < bufferSize →
        childrenToString env escaped bufferSize nodes string level =
          .ok (string ++ xmlDocumentList escaped nodes)
  | [], string, _, _, _ => by simp [childrenToString, xmlDocumentList]
  | node :: nodes, string, level, h, hlen => by
      rw [xmlDocumentList, List.length_append] at hlen
      rw [childrenToString, toStringRecursively_eq halloc henv node string level h.1 (by omega),
        ExceptOk.ok_bind,
        childrenToString_eq halloc henv nodes _ level h.2 (by rw [List.length_append]; omega),
        xmlDocumentList, List.append_assoc]

end


end Print


/-! ## `XmlTreeToString` -/

/-- **Escape, size and print agree.** When every allocation succeeds: `XmlEscape` of a string of
1 to `MaxStringLength` characters returns its escape, of the length `_GetXmlEscapedLength`
counts, and `XmlUnEscape` of the escape, with a maximum it fits, reads the string back, of the
length `_GetXmlUnEscapedLength` counts. On a printable tree whose document and NUL fit
`ASCII_RSIZE_MAX`, `CalculateXmlDocSize` is the document's length and `XmlTreeToString` prints
the document into a buffer of that size and its NUL. -/
theorem xmlTreeToString_of_printable (env : XmlEnv) (halloc : ∀ n, env.allocatePool n = true) :
    (∀ (s : List UInt8) (maxStringLength : Nat), 1 ≤ s.length → s.length ≤ maxStringLength →
      xmlEscape env.allocatePool s maxStringLength = .ok (xmlEscapeString s) ∧
        (xmlEscapeString s).length = getXmlEscapedLength s maxStringLength ∧
        ∀ maxEscapedStringLength, (xmlEscapeString s).length ≤ maxEscapedStringLength →
          getXmlUnEscapedLength (xmlEscapeString s) maxEscapedStringLength = s.length ∧
            xmlUnEscape env.allocatePool (xmlEscapeString s) maxEscapedStringLength = .ok s) ∧
      ∀ (node : XmlNode) (escaped : Bool), Printable escaped node 0 →
        (env.asciiRsizeMax = 0 ∨ (xmlDocument escaped node).length + 1 ≤ env.asciiRsizeMax) →
          calculateXmlDocSize escaped node = (.success, (xmlDocument escaped node).length) ∧
            xmlTreeToString env node escaped =
              .ok ((xmlDocument escaped node).length + 1, xmlDocument escaped node) := by
  refine ⟨fun s maxStringLength hs hmax => ?_, fun node escaped hnode henv => ?_⟩
  · refine ⟨xmlEscape_eq hs hmax (halloc _), (getXmlEscapedLength_of_le hmax).symm,
      fun maxEscapedStringLength hfit => ?_⟩
    exact ⟨getXmlUnEscapedLength_xmlEscapeString hfit,
      xmlUnEscape_xmlEscapeString hs hfit (halloc _)⟩
  · have hsize : calculateXmlDocSize escaped node = (.success, (xmlDocument escaped node).length) := by
      rw [calculateXmlDocSize, caclSizeRecursively_eq node 0 0 hnode, Nat.zero_add]
    refine ⟨hsize, ?_⟩
    rw [xmlTreeToString]
    simp only [hsize, EfiStatus.isError, Bool.false_eq_true, ↓reduceIte, halloc]
    rw [toStringRecursively_eq halloc henv node [] 0 hnode (by simp)]
    rfl

/-- A platform where every allocation succeeds and `ASCII_RSIZE_MAX` sets no limit. -/
def defaultXmlEnv : XmlEnv := ⟨fun _ => true, 0⟩

/-- `<a>&lt;</a>`: a node whose value is `<`. -/
def ltValueNode : XmlNode := .mk none [0x61] (some [0x3C]) [] []

theorem printable_ltValueNode : Printable true ltValueNode 0 := by
  refine ⟨by decide, fun att hatt => absurd hatt List.not_mem_nil, fun v hv _ => ?_, trivial⟩
  rw [Option.mem_some_iff] at hv
  subst hv
  exact ⟨List.cons_ne_nil _ _, by decide⟩

/-- `<` escapes to `&lt;` and back, and the node printed with it is `<a>&lt;</a>` in a buffer
of 12 bytes. -/
theorem xmlTreeToString_of_printable_ltValueNode :
    (∀ n, defaultXmlEnv.allocatePool n = true) ∧
      xmlUnEscape defaultXmlEnv.allocatePool (xmlEscapeString [0x3C]) 4 = .ok [0x3C] ∧
      xmlTreeToString defaultXmlEnv ltValueNode true =
        .ok (12, [0x3C, 0x61, 0x3E, 0x26, 0x6C, 0x74, 0x3B, 0x3C, 0x2F, 0x61, 0x3E]) :=
  ⟨fun _ => rfl,
    (((xmlTreeToString_of_printable defaultXmlEnv fun _ => rfl).1 [0x3C] 1 (by decide)
      (by decide)).2.2 4 (by decide)).2,
    ((xmlTreeToString_of_printable defaultXmlEnv fun _ => rfl).2 ltValueNode true
      printable_ltValueNode (.inl rfl)).2⟩

/-- `<a></a>` with an empty value: the size pass counts 7 characters, and the print stops with
`EFI_INVALID_PARAMETER` because `XmlEscape` takes the empty value's escaped length 0 for an
error. -/
theorem xmlTreeToString_empty_value :
    calculateXmlDocSize true (.mk none [0x61] (some []) [] []) = (.success, 7) ∧
      xmlTreeToString defaultXmlEnv (.mk none [0x61] (some []) [] []) true =
        .error .invalidParameter := by
  constructor <;> rfl

/-- An `AsciiStrCatS` into a buffer larger than a non-zero `ASCII_RSIZE_MAX` is refused. -/
theorem catS_of_rsizeMax_lt {env : XmlEnv} {bufferSize : Nat} {string source : List UInt8}
    (hmax : env.asciiRsizeMax ≠ 0) (hlong : env.asciiRsizeMax < bufferSize) :
    catS env bufferSize string source = .error .invalidParameter := by
  simp [catS, asciiStrCatS, hmax, hlong]

end MuPlus.Xml
