import Mathlib.Data.List.Basic

/-!
Network addresses as Go's `net` and `net/url` packages treat them. An IP address is its
16-byte form, an IPv4 address the one mapped into IPv6. A network compares the leading bits
of an address of its own family. Hosts and ports are split from text as `net.SplitHostPort`
does it and as `URL.Hostname` and `URL.Port` do it; the two agree on a host with a decimal
port.
-/

namespace NewApi.Addresses

open List hiding after

abbrev IP := BitVec 128

def v4 (first second third fourth : Nat) : BitVec 32 :=
  BitVec.ofNat 32 (((first * 256 + second) * 256 + third) * 256 + fourth)

def IP.ofV4 (address : BitVec 32) : IP := (0xffff#128 <<< 32) ||| address.setWidth 128

variable (ip : IP)

def IP.to4 : Option (BitVec 32) :=
  if ip >>> 32 = 0xffff#128 then some (ip.setWidth 32) else none

/-- A network after `networkNumberAndMask`, with the length of its mask. -/
inductive IPNet where
  | v4 (number : BitVec 32) (ones : Nat)
  | v6 (number : BitVec 128) (ones : Nat)
  deriving DecidableEq

def IPNet.contains : IPNet → IP → Bool
  | .v4 number ones, ip =>
    ip.to4.any fun address : BitVec 32 => address >>> (32 - ones) = number >>> (32 - ones)
  | .v6 number ones, ip => ip.to4.isNone && decide (ip >>> (128 - ones) = number >>> (128 - ones))

def IP.isUnspecified : Bool := ip = IP.ofV4 0#32 || ip = 0#128

def IP.isLoopback : Bool :=
  match ip.to4 with
  | some _ => IPNet.contains (.v4 (Addresses.v4 127 0 0 0) 8) ip
  | none => ip = 1#128

def IP.isLinkLocalUnicast : Bool :=
  IPNet.contains (.v4 (Addresses.v4 169 254 0 0) 16) ip ||
    IPNet.contains (.v6 (0xfe80#128 <<< 112) 10) ip

def IP.multicastScope : Option (BitVec 128) :=
  if ip >>> 120 = 0xff#128 then some ((ip >>> 112) &&& 0xf#128) else none

def IP.isLinkLocalMulticast : Bool :=
  IPNet.contains (.v4 (Addresses.v4 224 0 0 0) 24) ip || ip.multicastScope = some 2#128

def IP.isInterfaceLocalMulticast : Bool := ip.multicastScope = some 1#128

def IP.isPrivate : Bool :=
  IPNet.contains (.v4 (Addresses.v4 10 0 0 0) 8) ip ||
    IPNet.contains (.v4 (Addresses.v4 172 16 0 0) 12) ip ||
    IPNet.contains (.v4 (Addresses.v4 192 168 0 0) 16) ip ||
    IPNet.contains (.v6 (0xfc#128 <<< 120) 7) ip

def splitFirst (mark : Char) : List Char → Option (List Char × List Char)
  | [] => none
  | letter :: rest =>
    if letter = mark then some ([], rest)
    else (splitFirst mark rest).map fun parts => (letter :: parts.1, parts.2)

def splitLast (mark : Char) : List Char → Option (List Char × List Char)
  | [] => none
  | letter :: rest =>
    match splitLast mark rest with
    | some parts => some (letter :: parts.1, parts.2)
    | none => if letter = mark then some ([], rest) else none

/-- `net.SplitHostPort`; the texts of its errors are not used. -/
def splitHostPort (hostPort : List Char) : Option (List Char × List Char) :=
  match splitLast ':' hostPort with
  | none => none
  | some (before, port) =>
    if hostPort.head? = some '[' then
      match splitFirst ']' hostPort with
      | none => none
      | some (inside, rest) =>
        -- The bracket must close right before the last colon.
        if rest = ':' :: port ∧ '[' ∉ hostPort.tail ∧ ']' ∉ rest then some (inside.tail, port)
        else none
    else if ':' ∈ before ∨ '[' ∈ hostPort ∨ ']' ∈ hostPort then none
    else some (before, port)

def joinHostPort (host port : List Char) : List Char :=
  if ':' ∈ host then '[' :: host ++ ']' :: ':' :: port else host ++ ':' :: port

structure URL where
  scheme : String
  -- `host` or `host:port`.
  host : String
  deriving DecidableEq

def stripBrackets (host : List Char) : List Char :=
  if host.head? = some '[' ∧ host.getLast? = some ']' then host.tail.dropLast else host

/-- `splitHostPort` of net/url: the last colon counts when a decimal port follows. -/
def splitUrlHost (host : List Char) : List Char × List Char :=
  match splitLast ':' host with
  | some (before, port) =>
    if port.all Char.isDigit then (stripBrackets before, port) else (stripBrackets host, [])
  | none => (stripBrackets host, [])

def URL.hostname (url : URL) : String := String.ofList (splitUrlHost url.host.toList).1

def URL.port (url : URL) : String := String.ofList (splitUrlHost url.host.toList).2

/-- What `url.Parse` checks: a colon after the brackets starts a decimal port. -/
def URL.PortValid (url : URL) : Prop :=
  ∀ before port, splitLast ':' url.host.toList = some (before, port) → ']' ∉ port →
    port.all Char.isDigit

structure ParsedURL extends URL where
  portValid : toURL.PortValid

def decimal (digits : List Char) : Nat :=
  digits.foldl (fun value digit => value * 10 + (digit.toNat - '0'.toNat)) 0

def signedDecimal (negative : Bool) (digits : List Char) : Option Int :=
  let value : Int := if negative then -decimal digits else decimal digits
  if digits = [] ∨ digits.all Char.isDigit = false ∨ value < -9223372036854775808 ∨
      9223372036854775807 < value then none
  else some value

def atoi (text : String) : Option Int :=
  match text.toList with
  | '-' :: digits => signedDecimal true digits
  | '+' :: digits => signedDecimal false digits
  | digits => signedDecimal false digits

variable {mark : Char} {text after before host port hostPort : List Char}

theorem splitLast_ne_none (member : mark ∈ text) : splitLast mark text ≠ none := by
  induction text with
  | nil => cases member
  | cons letter rest ih =>
    simp only [splitLast]
    cases inner : splitLast mark rest with
    | some parts => simp
    | none =>
      rcases mem_cons.mp member with rfl | later
      · simp
      · exact absurd inner (ih later)

theorem splitLast_eq_some (split : splitLast mark text = some (before, after)) :
    text = before ++ mark :: after ∧ mark ∉ after := by
  induction text generalizing before with
  | nil => cases split
  | cons letter rest ih =>
    cases inner : splitLast mark rest with
    | some parts =>
      simp only [splitLast, inner, Option.some.injEq, Prod.mk.injEq] at split
      rcases split with ⟨rfl, rfl⟩
      rcases ih inner with ⟨shape, absent⟩
      exact ⟨congrArg (letter :: ·) shape, absent⟩
    | none =>
      simp only [splitLast, inner] at split
      split at split
      · rename_i same
        cases split
        constructor
        · rw [same]
          rfl
        · intro member
          exact splitLast_ne_none member inner
      · cases split

theorem splitFirst_eq_some (split : splitFirst mark text = some (before, after)) :
    text = before ++ mark :: after := by
  induction text generalizing before with
  | nil => cases split
  | cons letter rest ih =>
    simp only [splitFirst] at split
    split at split
    · rename_i same
      cases split
      rw [same]
      rfl
    · rw [Option.map_eq_some_iff] at split
      rcases split with ⟨⟨inside, last⟩, inner, shape⟩
      cases shape
      exact congrArg (letter :: ·) (ih inner)

theorem stripBrackets_plain (plain : '[' ∉ host) : stripBrackets host = host := by
  apply if_neg
  rintro ⟨first, -⟩
  exact plain (mem_of_mem_head? first)

theorem stripBrackets_bracketed (inside : List Char) :
    stripBrackets ('[' :: (inside ++ [']'])) = inside := by
  have closed : ('[' :: (inside ++ [']'])).getLast? = some ']' := by
    rw [← cons_append, getLast?_concat]
  rw [stripBrackets, if_pos ⟨rfl, closed⟩, tail_cons, dropLast_concat]

theorem splitHostPort_eq_some (split : splitHostPort hostPort = some (host, port)) :
    ∃ before, splitLast ':' hostPort = some (before, port) ∧ ']' ∉ port ∧
      stripBrackets before = host := by
  simp only [splitHostPort] at split
  cases last : splitLast ':' hostPort with
  | none => simp [last] at split
  | some parts =>
    rcases parts with ⟨before, after⟩
    have shape := (splitLast_eq_some last).1
    simp only [last] at split
    by_cases bracket : hostPort.head? = some '['
    · rw [if_pos bracket] at split
      cases first : splitFirst ']' hostPort with
      | none => simp [first] at split
      | some inner =>
        rcases inner with ⟨inside, rest⟩
        simp only [first] at split
        split at split
        · rename_i closed
          rcases closed with ⟨rfl, -, unclosed⟩
          cases split
          refine ⟨before, rfl, fun member => unclosed (.tail _ member), ?_⟩
          -- Both splits end in the same colon and port.
          have whole := splitFirst_eq_some first
          have same : before = inside ++ [']'] := by
            have joined : before ++ ':' :: port = (inside ++ [']']) ++ ':' :: port := by
              rw [← shape, whole, append_assoc, singleton_append]
            exact append_cancel_right joined
          cases inside with
          | nil =>
            rw [whole] at bracket
            cases bracket
          | cons letter inside =>
            rw [whole] at bracket
            cases bracket
            rw [same]
            exact stripBrackets_bracketed inside
        · cases split
    · rw [if_neg bracket] at split
      split at split
      · cases split
      rename_i plain
      cases split
      simp only [not_or, shape] at plain
      refine ⟨host, rfl, ?_, ?_⟩
      · intro member
        exact plain.2.2 (by simp [member])
      · apply stripBrackets_plain
        intro member
        exact plain.2.1 (by simp [member])

theorem splitUrlHost_of_splitHostPort {url : ParsedURL}
    (split : splitHostPort url.host.toList = some (host, port)) :
    splitUrlHost url.host.toList = (host, port) := by
  rcases splitHostPort_eq_some split with ⟨before, last, unclosed, stripped⟩
  have digits := url.portValid before port last unclosed
  simp only [splitUrlHost, last, digits, if_true, stripped]

end NewApi.Addresses
