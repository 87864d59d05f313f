import PromptShell.Pattern.Joining
import PromptShell.Text.Utf8
namespace PromptShell.Pattern

/-- The bytes that a match begins with, which may be the whole match. -/
structure Lead where
  bytes : List UInt8
  whole : Bool := true
  deriving Repr, DecidableEq

/-- The leads of a pattern, or nothing if its matches begin with too many things. -/
abbrev Leads := Option (List Lead)

namespace Lead

/-- A lead is no longer the whole match. -/
def opened (lead : Lead) : Lead := { lead with whole := false }

/-- No more than a number of bytes of a lead are kept. -/
def cut (count : Nat) (lead : Lead) : Lead :=
  if lead.bytes.length ≤ count then lead else ⟨lead.bytes.take count, false⟩

/-- A lead and those behind it, where neighbours with the same bytes become one. -/
def merge (lead : Lead) : List Lead → List Lead
  | [] => [lead]
  | next :: rest =>
      if next.bytes = lead.bytes then merge { lead with whole := lead.whole && next.whole } rest
      else lead :: merge next rest

/-- Neighbours with the same bytes become one. -/
def distinct : List Lead → List Lead
  | [] => []
  | lead :: rest => merge lead rest

/-- A lead goes on with others, unless it is open. -/
def followed (lead : Lead) (others : List Lead) : List Lead :=
  if lead.whole then others.map fun other => ⟨lead.bytes ++ other.bytes, other.whole⟩ else [lead]

/-- Leads that are not met behind an earlier one that they begin with. -/
def preferred (kept : List Lead) : List Lead → List Lead
  | [] => kept.reverse
  | lead :: rest =>
      if kept.any fun earlier => earlier.bytes.isPrefixOf lead.bytes then preferred kept rest
      else preferred (lead :: kept) rest

/-- The bytes that two leads have in common at their front. -/
def commonFront : List UInt8 → List UInt8 → List UInt8
  | byte :: rest, other :: others => if byte = other then byte :: commonFront rest others else []
  | _, _ => []

end Lead

namespace Leads

/-- The most leads that a pattern may have. -/
def mostLeads : Nat := 250

/-- The most bytes that a lead may have. -/
def mostBytes : Nat := 100

/-- The most characters of a set that has leads. -/
def mostCharacters : Nat := 10

/-- The most times that a part of a lead is repeated. -/
def mostTimes : Nat := 10

/-- The empty text begins every match. -/
def start : Leads := some [⟨[], true⟩]

/-- Nothing can be added to the leads. -/
def isOpen (leads : Leads) : Bool := leads.all fun all => all.all fun lead => !lead.whole

/-- No lead is known to be a whole match. -/
def opened (leads : Leads) : Leads := leads.map fun all => all.map Lead.opened

/-- No more than a number of bytes of each lead are kept. -/
def cut (count : Nat) (leads : Leads) : Leads := leads.map fun all => all.map (Lead.cut count)

/-- Leads go on with others. -/
def followed (leads others : Leads) : Leads :=
  match leads, others with
  | none, _ => none
  | some first, some second =>
      if mostLeads < first.length * second.length then
        if first.any fun lead => lead.bytes.isEmpty then none else leads.opened.cut mostBytes
      else
        cut mostBytes (some (Lead.distinct (first.flatMap fun lead => lead.followed second)))
  | some first, none =>
      if first.any fun lead => lead.bytes.isEmpty then none else leads.opened.cut mostBytes

/-- Leads or others. Where there are too many, their first bytes may do. -/
def or (leads others : Leads) : Leads :=
  match leads, others with
  | some first, some second =>
      if first.length + second.length ≤ mostLeads then some (Lead.distinct (first ++ second))
      else
        let short := 4
        let first := Lead.distinct (first.map (Lead.cut short))
        let second := Lead.distinct (second.map (Lead.cut short))
        if first.length + second.length ≤ mostLeads then some (Lead.distinct (first ++ second))
        else none
  | _, _ => none

/-- Leads are repeated a number of times. -/
def times (leads : Leads) : Nat → Leads → Leads
  | 0, front => front
  | count + 1, front => if front.isOpen then front else times leads count (front.followed leads)

/-- The leads of a repetition of something with leads. -/
def repeated (least : Nat) (most : Option Nat) (lazily : Bool) (leads : Leads) : Leads :=
  if least = 0 then
    let some1 := if most = some 1 then leads else leads.opened
    if lazily then start.or some1 else some1.or start
  else match most with
    | none => leads.opened
    | some most =>
        let front := times leads (min least mostTimes) start
        if least = most ∧ least ≤ mostTimes then front else front.opened

/-- The characters of a set, if they are few. -/
def ofSet (set : Ranges) : Leads :=
  let count := set.foldl (fun count range => count + (range.2 - range.1 + 1)) 0
  if mostCharacters < count then none
  else some (set.flatMap fun range =>
    (List.range (range.2 - range.1 + 1)).map fun index =>
      ⟨Utf8.encodeChar (Char.ofNat (range.1 + index)), true⟩)

end Leads

/-- Where leads are gathered: behind those of the parts in front of them in a row, or beside those
of the branches in front of them in a choice. -/
inductive Gathering where
  | row (front : Leads)
  | sum (others : Leads)

/-- Leads are added to those that were gathered. -/
def Gathering.take (gathering : Gathering) (leads : Leads) : Leads :=
  match gathering with
  | row front => if front.isOpen then front else front.followed leads
  | sum others => others.or leads

/-- The leads of a pattern are gathered. -/
def gather (gathering : Gathering) (pattern : Pattern) : Leads :=
  match pattern with
  | sequence first second =>
      match gathering with
      | .row front => second.gather (.row (first.gather (.row front)))
      | .sum _ => gathering.take (second.gather (.row (first.gather (.row Leads.start))))
  | choice first second =>
      match gathering with
      | .sum others => second.gather (.sum (first.gather (.sum others)))
      | .row _ => gathering.take (second.gather (.sum (first.gather (.sum (some [])))))
  | vacant | anchor _ => gathering.take Leads.start
  | literal text =>
      gathering.take (Leads.cut Leads.mostBytes (some [⟨Utf8.encodeChars text, true⟩]))
  | oneOf set => gathering.take (Leads.ofSet set)
  | repetition least most lazily body =>
      gathering.take ((body.gather (.row Leads.start)).repeated least most lazily)
  | group _ body => gathering.take (body.gather (.row Leads.start))

/-- Bytes that are met often, as those that follow ASCII are taken to be. -/
def isCommon (byte : UInt8) : Bool :=
  0x80 ≤ byte ||
    "\n\r (),-./0129:_abcdefghilmnoprstuvxy|".toList.any fun character =>
      character.toNat = byte.toNat

/-- How leads are made fewer and shorter where there are many: bytes to be kept, and the number of
leads that makes it worth while. -/
def shortenings : List (Nat × Nat) := [(5, 10), (4, 10), (3, 64), (2, 64), (1, 10)]

/-- Leads are made fewer and shorter as long as there are many. -/
def shorten : List (Nat × Nat) → List Lead → List Lead
  | [], leads => leads
  | (count, many) :: rest, leads =>
      if leads.length ≤ many then leads
      else shorten rest (Lead.preferred [] (leads.map (Lead.cut count)))

/-- Leads of which one part decides already are cut down to it: one that is rare, or that is
long. -/
def narrow (known : Nat) (leads : List Lead) : List Lead :=
  match leads with
  | [] => []
  | first :: rest =>
      let front := rest.foldl (fun front lead => Lead.commonFront front lead.bytes) first.bytes
      let rare := 1 < known && 1 ≤ front.length && front.length ≤ 3 &&
        front.head?.any fun byte => !isCommon byte
      let few := leads.all Lead.whole && leads.length ≤ 16
      if rare then Lead.distinct (leads.map (Lead.cut 1))
      else if 4 < front.length || (1 < front.length && !few) then
        Lead.distinct (leads.map (Lead.cut front.length))
      else leads

/-- Leads are worth more whole than shortened: one of them would become too short, or too many would
be left. -/
def staysWhole (leads : List Lead) : Bool :=
  let short := shorten shortenings leads
  short.all Lead.whole || 64 < short.length || short.any fun lead => lead.bytes.length ≤ 2

/-- The pattern has groups that keep what they match, or conditions on places. -/
def asksForMore : Pattern → Bool
  | anchor _ | group _ _ => true
  | sequence first second | choice first second => first.asksForMore || second.asksForMore
  | repetition _ _ _ body => body.asksForMore
  | vacant | literal _ | oneOf _ => false

/-- The pattern is a choice among some texts, which can be searched for without more ado. -/
def isTexts (pattern : Pattern) : Bool :=
  !pattern.asksForMore &&
    match pattern.gather (.row Leads.start) with
    | none => false
    | some leads =>
        let narrowed := narrow leads.length (Lead.preferred [] leads)
        !leads.isEmpty && !(leads.any fun lead => lead.bytes.isEmpty) &&
          narrowed.all Lead.whole && staysWhole narrowed

end PromptShell.Pattern
