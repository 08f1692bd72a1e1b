import Mathlib.Tactic
import QueryTemplate.Failure

/-! What a message tells. The data of every failure stand in its message, one after the other: the
position, the block and its count, the numbers of arguments, the run, the tag, and what was shown of
the value that was refused. -/

namespace QueryTemplate.Failure

/-- The details of a failure as its message spells them, in the order in which it names them. -/
def details : Failure → List String
  | .nestedBlock position => [toString position]
  | .crowdedBlock block slots => [String.ofList (Text.quoted block), toString slots]
  | .argumentCount expected given => [toString expected, toString given]
  | .unknownRun run => [String.ofList (Tag.placeholder run)]
  | .misplacedSkip tag => [String.ofList (Tag.placeholder tag.run)]
  | .notInteger shown | .notNumber shown | .notFinite shown | .nameNotText shown =>
    [String.ofList shown]
  | .notNames typeName | .notAssociation typeName | .notScalar typeName => [typeName]
  | .entryValue key item => [String.ofList key, String.ofList item]
  | .entryKey key => [String.ofList key]
  | .outOfRange sequence => if sequence.isEmpty then [] else [sequence]
  | .missingKey shown => [String.ofList shown]
  | .notIterable name | .notSubscriptable name | .notSized name | .notTemplate name => [name]
  | .badHostNumber shown => [String.ofList shown]
  | .hostNumberTooLong digits => [toString digits]
  | .unsupportedBackend name => [String.ofList name]
  | .unstorable parameter name => [toString parameter, name]
  | .unencodable row =>
    if row.first = row.last then [String.ofList (Text.hex 4 row.code), toString row.first]
    else [toString row.first, toString row.last]
  | .columnCount named found => [toString named, toString found]
  | .statement kind message =>
    [String.ofList (if kind = .key then Text.quoted message else message)]
  | .integerTooLong | .integerTooLarge | .signallingComparison | .indexTooLarge | .bytesTemplate
  | .bodyTooDeep | .bodyNotObject | .templateMissing | .argsNotArray | .unreadableUrl
  | .auditDisabled | .integerTooLargeToStore => []

/-- A text that is made of some details, one after the other, and of other texts around them. -/
inductive Tells : List String → String → Prop where
  | text (s : String) : Tells [] s
  | detail (s : String) : Tells [s] s
  | append {details details' : List String} {s s' : String} (h : Tells details s)
      (h' : Tells details' s') : Tells (details ++ details') (s ++ s')

theorem Tells.within {details : List String} {s : String} (h : Tells details s)
    (front back : String) : Tells details (front ++ s ++ back) := by
  have happend := ((Tells.text front).append h).append (.text back)
  rwa [List.nil_append, List.append_nil] at happend

theorem tells_after (front detail : String) : Tells [detail] (front ++ detail) :=
  .append (.text front) (.detail detail)

theorem tells_between (front detail back : String) : Tells [detail] (front ++ detail ++ back) :=
  (Tells.detail detail).within front back

theorem tells_unencodablePlace (row : Text.LoneRow) : Tells
    (if row.first = row.last then [String.ofList (Text.hex 4 row.code), toString row.first]
      else [toString row.first, toString row.last]) (unencodablePlace row) := by
  unfold unencodablePlace
  split_ifs
  · exact .append (tells_after _ _) (tells_after _ _)
  · exact .append (tells_between _ _ _) (.detail _)

/-- A message names every detail of its failure, in order. -/
theorem message_tells_details (e : Failure) : Tells e.details e.message := by
  cases e with
  | nestedBlock | unknownRun | misplacedSkip | notNames | nameNotText | notAssociation | entryKey |
    notScalar | badHostNumber => exact tells_after _ _
  | notInteger | notNumber | notFinite | notIterable | notSubscriptable | notSized | notTemplate |
    unsupportedBackend => exact tells_between _ _ _
  | missingKey shown => exact .detail _
  | hostNumberTooLong digits => exact .append (.text _) (tells_between _ _ _)
  | crowdedBlock block slots => exact .append (tells_after _ _) (tells_between _ _ _)
  | argumentCount expected given =>
    exact .append (.append (tells_between _ _ _) (.detail _)) (.text _)
  | unstorable parameter name =>
    exact .append (.append (tells_between _ _ _) (.detail _)) (.text _)
  | entryValue key item => exact .append (tells_between _ _ _) (.detail _)
  | columnCount named found =>
    exact .append (.append (.append (.detail _) (.text _)) (.detail _)) (.text _)
  | outOfRange sequence =>
    show Tells (if sequence.isEmpty then [] else [sequence])
      (if sequence.isEmpty then "index out of range" else sequence ++ " index out of range")
    split_ifs
    · exact .text _
    · exact .append (.detail _) (.text _)
  | unencodable row => exact (tells_unencodablePlace row).within _ _
  | statement kind message => cases kind <;> exact .detail _
  | integerTooLong | integerTooLarge | signallingComparison | indexTooLarge | bytesTemplate |
    bodyTooDeep | bodyNotObject | templateMissing | argsNotArray | unreadableUrl | auditDisabled |
    integerTooLargeToStore => exact .text _

end QueryTemplate.Failure
