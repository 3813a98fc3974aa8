import Mathlib.Algebra.Group.Nat.Defs
import Mathlib.Data.List.TakeWhile
import RunRadar.Proofs.Number.Reading
import RunRadar.Proofs.Text.Escape

/-!
# RunRadar.Proofs.Text.Url

**Addresses of databases**, read by the generic syntax of URLs. Behind the scheme stands the
authority, up to the first slash, question mark or number sign. It is a server, and in front of the
last at sign a user and a password; both pairs are divided by their first colon. The path behind the
authority is the name of a database. What is read of the parts is freed of percent escapes.

Parts that are joined in this order come apart again if none of them holds a mark that would end it
(`Parts.split_join`). The converse is `Parts.separable_of_utf8Len_le`, and is about lengths: reading
a part takes at least as many bytes as are read, so that one cut short cannot stand for the whole.
Both together say what becomes of an address, escapes included (`decode?_split_join_iff`).
-/

namespace RunRadar.Text.Url

/-! ### Taking an address apart -/

/-- What may stand in the authority. -/
def inAuthority (c : Char) : Bool := c != '/' && c != '?' && c != '#'

/-- What may stand in the path. -/
def inPath (c : Char) : Bool := c != '?' && c != '#'

/-- What stands before the first mark, and what behind it. -/
def cutFirst (mark : Char) (cs : List Char) : List Char × List Char :=
  (cs.takeWhile (· != mark), (cs.dropWhile (· != mark)).drop 1)

/-- What stands before the last mark, and what behind it. Without a mark, that is everything. -/
def cutLast (mark : Char) (cs : List Char) : List Char × List Char :=
  let (behind, before) := cutFirst mark cs.reverse
  (before.reverse, behind.reverse)

/-- What follows the scheme. -/
def afterScheme? : List Char → Option (List Char)
  | [] => none
  | ':' :: '/' :: '/' :: rest => some rest
  | _ :: rest => afterScheme? rest

theorem afterScheme?_append {scheme : List Char} (h : ':' ∉ scheme) (rest : List Char) :
    afterScheme? (scheme ++ ':' :: '/' :: '/' :: rest) = some rest := by
  induction scheme with
  | nil => rfl
  | cons c scheme ih =>
      obtain ⟨hc, hscheme⟩ := List.ne_and_not_mem_of_not_mem_cons h
      rw [List.cons_append, afterScheme?, ih hscheme]
      exact fun _ hcolon _ => hc hcolon.symm

/-- The path without the slash that it begins with. -/
def unslash : List Char → List Char
  | '/' :: rest => rest
  | rest => rest

/-- The parts of an address, as they are written. -/
structure Parts where
  user : List Char
  password : List Char
  host : List Char
  port : List Char
  database : List Char

/-- The parts of what follows the scheme. -/
def Parts.split (cs : List Char) : Parts :=
  let (userinfo, server) := cutLast '@' (cs.takeWhile inAuthority)
  let (user, password) := cutFirst ':' userinfo
  let (host, port) := cutFirst ':' server
  { user, password, host, port
    database := (unslash (cs.dropWhile inAuthority)).takeWhile inPath }

/-- A database, and how to get to it. -/
structure Endpoint where
  user : String
  password : String
  host : String
  port : Nat
  database : String
deriving DecidableEq

/-- What parts stand for. -/
def Parts.decode? (p : Parts) : Option Endpoint := do
  let user ← unescape? p.user
  let password ← unescape? p.password
  let host ← unescape? p.host
  let port ← readNat? (2 ^ 16) (String.ofList p.port)
  let database ← unescape? p.database
  return { user, password, host, port, database }

/-- What an address designates. -/
def read? (url : String) : Option Endpoint :=
  (afterScheme? url.toList).bind fun rest => (Parts.split rest).decode?

theorem Parts.decode?_eq_some_iff {p : Parts} {e : Endpoint} :
    p.decode? = some e ↔
      unescape? p.user = some e.user ∧ unescape? p.password = some e.password ∧
        unescape? p.host = some e.host ∧ readNat? (2 ^ 16) (String.ofList p.port) = some e.port ∧
          unescape? p.database = some e.database := by
  obtain ⟨user, password, host, port, database⟩ := e
  simp only [Parts.decode?, Option.bind_eq_bind, Option.bind_eq_some_iff, Option.pure_def,
    Option.some.injEq, Endpoint.mk.injEq]
  constructor
  · rintro ⟨_, huser, _, hpassword, _, hhost, _, hport, _, hdatabase, rfl, rfl, rfl, rfl, rfl⟩
    exact ⟨huser, hpassword, hhost, hport, hdatabase⟩
  · rintro ⟨huser, hpassword, hhost, hport, hdatabase⟩
    exact ⟨_, huser, _, hpassword, _, hhost, _, hport, _, hdatabase, rfl, rfl, rfl, rfl, rfl⟩

/-! ### Cuts -/

theorem takeWhile_append_cons {p : Char → Bool} {cs : List Char} {c : Char} {rest : List Char}
    (hcs : ∀ c ∈ cs, p c = true) (hc : p c = false) : (cs ++ c :: rest).takeWhile p = cs := by
  rw [List.takeWhile_append_of_pos hcs, List.takeWhile_cons_of_neg (by simp [hc]), List.append_nil]

theorem dropWhile_append_cons {p : Char → Bool} {cs : List Char} {c : Char} {rest : List Char}
    (hcs : ∀ c ∈ cs, p c = true) (hc : p c = false) :
    (cs ++ c :: rest).dropWhile p = c :: rest := by
  rw [List.dropWhile_append_of_pos hcs, List.dropWhile_cons_of_neg (by simp [hc])]

theorem cutFirst_append {mark : Char} {front back : List Char} (h : mark ∉ front) :
    cutFirst mark (front ++ mark :: back) = (front, back) := by
  have hfront : ∀ c ∈ front, (c != mark) = true := fun c hc => by
    simpa using fun heq : c = mark => h (heq ▸ hc)
  rw [cutFirst, takeWhile_append_cons hfront (by simp), dropWhile_append_cons hfront (by simp)]
  rfl

theorem cutFirst_of_not_mem {mark : Char} {cs : List Char} (h : mark ∉ cs) :
    cutFirst mark cs = (cs, []) := by
  have hcs : ∀ c ∈ cs, (c != mark) = true := fun c hc => by
    simpa using fun heq : c = mark => h (heq ▸ hc)
  rw [cutFirst, List.takeWhile_eq_self_iff.mpr hcs, List.dropWhile_eq_nil_iff.mpr hcs]
  rfl

theorem cutLast_append {mark : Char} {front back : List Char} (h : mark ∉ back) :
    cutLast mark (front ++ mark :: back) = (front, back) := by
  have hreverse : (front ++ mark :: back).reverse = back.reverse ++ mark :: front.reverse := by
    simp
  rw [cutLast, hreverse, cutFirst_append (by simpa using h)]
  simp only [List.reverse_reverse]

/-- What stands before the last mark begins the whole. -/
theorem cutLast_prefix_self (mark : Char) (cs : List Char) : (cutLast mark cs).1 <+: cs := by
  rw [← List.reverse_suffix, cutLast, List.reverse_reverse]
  exact (List.drop_suffix 1 _).trans (List.dropWhile_suffix _)

theorem exists_eq_append_last {mark : Char} {cs : List Char} (h : mark ∈ cs) :
    ∃ front back, cs = front ++ mark :: back ∧ mark ∉ back := by
  obtain ⟨back, front, hcs, hback⟩ := List.eq_append_cons_of_mem (List.mem_reverse.mpr h)
  refine ⟨front.reverse, back.reverse, ?_, by simpa using hback⟩
  rw [← List.reverse_reverse cs, hcs]
  simp

/-- What stands before the last mark goes no further than the last mark can. -/
theorem cutLast_prefix_of_not_mem {mark : Char} {front back : List Char} (h : mark ∉ back) :
    (cutLast mark (front ++ back)).1 <+: front := by
  by_cases hfront : mark ∈ front
  · obtain ⟨before, behind, rfl, hbehind⟩ := exists_eq_append_last hfront
    rw [List.append_assoc, List.cons_append, cutLast_append (by simp [hbehind, h])]
    exact List.prefix_append before _
  · have hreverse : mark ∉ (front ++ back).reverse := by simp [hfront, h]
    rw [cutLast, cutFirst_of_not_mem hreverse]
    exact List.nil_prefix

/-! ### Parts put together -/

namespace Parts

/-- The authority of an address with given parts. -/
def authority (p : Parts) : List Char :=
  p.user ++ ':' :: (p.password ++ '@' :: (p.host ++ ':' :: p.port))

/-- What follows the scheme of an address with given parts. -/
def join (p : Parts) (query : List Char) : List Char :=
  p.authority ++ '/' :: (p.database ++ '?' :: query)

/-- What stands for the server is one. -/
structure HasServer (p : Parts) : Prop where
  host : ∀ c ∈ p.host, inAuthority c ∧ c ≠ '@' ∧ c ≠ ':'
  port : ∀ c ∈ p.port, inAuthority c ∧ c ≠ '@'

/-- No other part holds a mark that would end it. -/
structure Separable (p : Parts) : Prop where
  user : ∀ c ∈ p.user, inAuthority c ∧ c ≠ ':'
  password : ∀ c ∈ p.password, inAuthority c
  database : ∀ c ∈ p.database, inPath c

instance (p : Parts) : Decidable p.Separable :=
  decidable_of_iff (p.user.all (fun c => inAuthority c && c != ':') ∧
      p.password.all inAuthority ∧ p.database.all inPath) (by
    simp only [List.all_eq_true, Bool.and_eq_true, bne_iff_ne]
    exact ⟨fun ⟨huser, hpassword, hdatabase⟩ => ⟨huser, hpassword, hdatabase⟩,
      fun h => ⟨h.user, h.password, h.database⟩⟩)

variable {p : Parts} {query : List Char}

theorem split_password (cs : List Char) :
    (split cs).password = (cutFirst ':' (cutLast '@' (cs.takeWhile inAuthority)).1).2 := rfl

theorem split_database (cs : List Char) :
    (split cs).database = (unslash (cs.dropWhile inAuthority)).takeWhile inPath := rfl

theorem inAuthority_of_mem_authority (hserver : p.HasServer)
    (huser : ∀ c ∈ p.user, inAuthority c) (hpassword : ∀ c ∈ p.password, inAuthority c) :
    ∀ c ∈ p.authority, inAuthority c := by
  have hcolon : inAuthority ':' = true := by decide
  have hat : inAuthority '@' = true := by decide
  simp only [authority, List.mem_append, List.mem_cons]
  rintro c (hc | rfl | hc | rfl | hc | rfl | hc)
  · exact huser c hc
  · exact hcolon
  · exact hpassword c hc
  · exact hat
  · exact (hserver.host c hc).1
  · exact hcolon
  · exact (hserver.port c hc).1

theorem at_not_mem_server (hserver : p.HasServer) : '@' ∉ p.host ++ ':' :: p.port := by
  intro h
  rcases List.mem_append.mp h with h | h
  · exact (hserver.host _ h).2.1 rfl
  · rcases List.mem_cons.mp h with h | h
    · exact absurd h (by decide)
    · exact (hserver.port _ h).2 rfl

/-- Separable parts come apart again. -/
theorem split_join (hserver : p.HasServer) (h : p.Separable) (query : List Char) :
    split (p.join query) = p := by
  have hauthority := inAuthority_of_mem_authority hserver (fun c hc => (h.user c hc).1) h.password
  have hend : inAuthority '/' = false := by decide
  have hserverinfo : cutLast '@' p.authority =
      (p.user ++ ':' :: p.password, p.host ++ ':' :: p.port) := by
    rw [← cutLast_append (at_not_mem_server hserver), authority, List.append_assoc,
      List.cons_append]
  have huser : ':' ∉ p.user := fun hc => (h.user _ hc).2 rfl
  have hhost : ':' ∉ p.host := fun hc => (hserver.host _ hc).2.2 rfl
  have hdatabase : (p.database ++ '?' :: query).takeWhile inPath = p.database :=
    takeWhile_append_cons h.database (by decide)
  simp only [split, join, takeWhile_append_cons hauthority hend,
    dropWhile_append_cons hauthority hend, hserverinfo, cutFirst_append huser,
    cutFirst_append hhost, unslash, hdatabase]

/-! ### Parts come apart -/

theorem join_eq (p : Parts) (query : List Char) :
    p.join query = p.user ++ ':' :: (p.password ++ '@' :: (p.host ++ ':' :: (p.port ++ '/' ::
      (p.database ++ '?' :: query)))) := by
  simp [join, authority]

/-- A user that is not read short stands in the authority and in front of the first colon. -/
theorem user_of_utf8Len_le
    (h : String.utf8Len p.user ≤ String.utf8Len (split (p.join query)).user) :
    ∀ c ∈ p.user, inAuthority c ∧ c ≠ ':' := by
  have hread : (split (p.join query)).user <+: (p.join query).takeWhile inAuthority :=
    (List.takeWhile_prefix _).trans (cutLast_prefix_self '@' _)
  have hbegin : p.user <+: (split (p.join query)).user :=
    prefix_of_utf8Len_le (join_eq p query ▸ List.prefix_append ..)
      (hread.trans (List.takeWhile_prefix _)) h
  intro c hc
  refine ⟨List.mem_takeWhile_imp (hread.subset (hbegin.subset hc)), ?_⟩
  simpa using List.mem_takeWhile_imp (hbegin.subset hc)

/-- A password that is not read short stands in the authority, if the user does. -/
theorem password_of_utf8Len_le (huser : ∀ c ∈ p.user, inAuthority c ∧ c ≠ ':')
    (h : String.utf8Len p.password ≤ String.utf8Len (split (p.join query)).password) :
    ∀ c ∈ p.password, inAuthority c := by
  obtain ⟨rest, hrest⟩ : ∃ rest, p.join query = p.user ++ ':' :: (p.password ++ '@' :: rest) :=
    ⟨_, join_eq p query⟩
  have hauthority : (p.join query).takeWhile inAuthority =
      p.user ++ ':' :: (p.password ++ '@' :: rest).takeWhile inAuthority := by
    rw [hrest, List.takeWhile_append_of_pos fun c hc => (huser c hc).1,
      List.takeWhile_cons_of_pos (by decide)]
  have hcolon : ':' ∉ p.user := fun hc => (huser _ hc).2 rfl
  rw [split_password, hauthority] at h
  by_cases hat : '@' ∈ (p.password ++ '@' :: rest).takeWhile inAuthority
  · -- the password read is what the authority holds behind the user, up to its last at sign
    obtain ⟨front, back, hcut, hback⟩ := exists_eq_append_last hat
    rw [hcut, ← List.cons_append, ← List.append_assoc, cutLast_append hback,
      cutFirst_append hcolon] at h
    have hfront : front <+: (p.password ++ '@' :: rest).takeWhile inAuthority := by
      rw [hcut]
      exact List.prefix_append ..
    have hbegin : p.password <+: front :=
      prefix_of_utf8Len_le (List.prefix_append ..) (hfront.trans (List.takeWhile_prefix _)) h
    exact fun c hc => List.mem_takeWhile_imp (hfront.subset (hbegin.subset hc))
  · -- no password is read, hence there is none, and the at sign stands in the authority
    have hrest := List.not_mem_cons_of_ne_of_not_mem (by decide : '@' ≠ ':') hat
    have hbegin : (cutLast '@' (p.user ++ _)).1 <+: p.user := cutLast_prefix_of_not_mem hrest
    rw [cutFirst_of_not_mem fun hc => hcolon (hbegin.subset hc), String.utf8Len_nil,
      Nat.le_zero, String.utf8Len_eq_zero] at h
    simp [h]

/-- A database that is not read short stands in the path, if user and password stand in front. -/
theorem database_of_utf8Len_le (hauthority : ∀ c ∈ p.authority, inAuthority c)
    (h : String.utf8Len p.database ≤ String.utf8Len (split (p.join query)).database) :
    ∀ c ∈ p.database, inPath c := by
  have hread : (split (p.join query)).database =
      (p.database ++ '?' :: query).takeWhile inPath := by
    rw [split_database, join, dropWhile_append_cons hauthority (by decide), unslash]
  rw [hread] at h
  have hbegin : p.database <+: (p.database ++ '?' :: query).takeWhile inPath :=
    prefix_of_utf8Len_le (List.prefix_append ..) (List.takeWhile_prefix _) h
  exact fun c hc => List.mem_takeWhile_imp (hbegin.subset hc)

/-- Where no part is read shorter than it is, the parts are separable. -/
theorem separable_of_utf8Len_le (hserver : p.HasServer)
    (huser : String.utf8Len p.user ≤ String.utf8Len (split (p.join query)).user)
    (hpassword : String.utf8Len p.password ≤ String.utf8Len (split (p.join query)).password)
    (hdatabase : String.utf8Len p.database ≤ String.utf8Len (split (p.join query)).database) :
    p.Separable := by
  have huser := user_of_utf8Len_le huser
  have hpassword := password_of_utf8Len_le huser hpassword
  have hauthority := inAuthority_of_mem_authority hserver (fun c hc => (huser c hc).1) hpassword
  exact ⟨huser, hpassword, database_of_utf8Len_le hauthority hdatabase⟩

end Parts

/-! ### Addresses -/

/-- What may stand in a host: letters, digits, dots and hyphens do, but no mark of an address and no
percent sign. -/
def inHost (c : Char) : Bool := inAuthority c && c != '@' && c != ':' && c != '%'

/-- The parts of an address, with nothing escaped. -/
def Endpoint.parts (e : Endpoint) : Parts where
  user := e.user.toList
  password := e.password.toList
  host := e.host.toList
  port := (toString e.port).toList
  database := e.database.toList

theorem Endpoint.hasServer_parts {e : Endpoint} (hhost : ∀ c ∈ e.host.toList, inHost c) :
    e.parts.HasServer where
  host c hc := by
    have hc := hhost c hc
    simp only [inHost, Bool.and_eq_true, bne_iff_ne, ne_eq] at hc
    exact ⟨hc.1.1.1, hc.1.1.2, hc.1.2⟩
  port c hc := by
    have hdigit : c.isDigit = true := by
      rw [parts, toList_toString] at hc
      exact Nat.isDigit_of_mem_toDigits (by decide) (by decide) hc
    have hne : ∀ d, d.isDigit = false → c ≠ d := fun d hd heq => by simp [← heq, hdigit] at hd
    simp [inAuthority, hne]

/-- **What was put together is read back**, exactly if it is separable and nothing in it looks
escaped. -/
theorem decode?_split_join_iff {e : Endpoint} (hhost : ∀ c ∈ e.host.toList, inHost c)
    (hport : e.port < 2 ^ 16) (query : List Char) :
    (Parts.split (e.parts.join query)).decode? = some e ↔
      e.parts.Separable ∧ ¬ HasEscape e.user.toList ∧ ¬ HasEscape e.password.toList ∧
        ¬ HasEscape e.database.toList := by
  have hserver := Endpoint.hasServer_parts hhost
  have hescape : ¬ HasEscape e.host.toList :=
    not_hasEscape_of_not_mem fun hc => absurd (hhost _ hc) (by decide)
  constructor
  · intro h
    have hseparable : e.parts.Separable := by
      obtain ⟨huser, hpassword, -, -, hdatabase⟩ := Parts.decode?_eq_some_iff.mp h
      exact Parts.separable_of_utf8Len_le hserver (utf8Len_le_of_unescape? huser)
        (utf8Len_le_of_unescape? hpassword) (utf8Len_le_of_unescape? hdatabase)
    rw [Parts.split_join hserver hseparable] at h
    obtain ⟨huser, hpassword, -, -, hdatabase⟩ := Parts.decode?_eq_some_iff.mp h
    exact ⟨hseparable, unescape?_eq_self_iff.mp huser, unescape?_eq_self_iff.mp hpassword,
      unescape?_eq_self_iff.mp hdatabase⟩
  · rintro ⟨hseparable, huser, hpassword, hdatabase⟩
    rw [Parts.split_join hserver hseparable]
    refine Parts.decode?_eq_some_iff.mpr ⟨unescape?_eq_self_iff.mpr huser,
      unescape?_eq_self_iff.mpr hpassword, unescape?_eq_self_iff.mpr hescape, ?_,
      unescape?_eq_self_iff.mpr hdatabase⟩
    rw [Endpoint.parts, String.ofList_toList]
    exact readNat?_toString hport

end RunRadar.Text.Url
