/-
PackageRelease/Proofs/Service/Address.lean

Where the endpoint of a host lies.

    http://host[:port]////add_version/detail

An address is cut at the characters that a good host does not hold, so the
host and the port of an endpoint are found again as they have been given
(`parse?_address`).  The slashes behind them are taken away before the path is
put there, so their number does not matter: `parse?_endpoint` gives one
address for all of them.
-/
import Mathlib.Data.List.TakeWhile
import PackageRelease.Proofs.Service.Host
import PackageRelease.Service.Request

namespace PackageRelease

namespace Url

variable {c : Char} {authority host number text tail : List Char}

/-! ### Hosts with a port -/

/-- The text has the form `host[:port]`: a good host, and perhaps the digits of a port. -/
inductive NamesHost : List Char → Prop
  | alone {host : List Char} (good : (Host.parse? host).isSome) : NamesHost host
  | withPort {host digits : List Char} {port : Nat} (good : (Host.parse? host).isSome)
      (number : Host.digits? 10 digits = some port) (bounded : port ≤ portLimit) :
      NamesHost (host ++ ':' :: digits)

theorem splitPort_cons {inBrackets : Bool} (stays : ¬ (c = ':' ∧ !inBrackets)) (rest : List Char) :
    splitPort inBrackets (c :: rest)
      = (c :: (splitPort (if c = '[' then true else if c = ']' then false else inBrackets) rest).1,
          (splitPort (if c = '[' then true else if c = ']' then false else inBrackets) rest).2) := by
  rw [splitPort, if_neg stays]

theorem splitPort_name_append (uncut : ∀ c ∈ text, c ∉ [':', '[', ']']) (tail : List Char) :
    splitPort false (text ++ tail)
      = (text ++ (splitPort false tail).1, (splitPort false tail).2) := by
  induction text with
  | nil => rfl
  | cons c rest ih =>
    obtain ⟨first, more⟩ := List.forall_mem_cons.1 uncut
    simp only [List.mem_cons, List.not_mem_nil, or_false, not_or] at first
    obtain ⟨colon, opening, closing⟩ := first
    rw [List.cons_append, splitPort_cons (fun h => colon h.1), if_neg opening, if_neg closing,
      ih more, List.cons_append]

/-- Between brackets a colon does not end the host. -/
theorem splitPort_number_append (uncut : ∀ c ∈ number, c ∉ ['[', ']']) (tail : List Char) :
    splitPort true (number ++ ']' :: tail)
      = (number ++ ']' :: (splitPort false tail).1, (splitPort false tail).2) := by
  induction number with
  | nil => exact splitPort_cons (by decide) tail
  | cons c rest ih =>
    obtain ⟨first, more⟩ := List.forall_mem_cons.1 uncut
    simp only [List.mem_cons, List.not_mem_nil, or_false, not_or] at first
    obtain ⟨opening, closing⟩ := first
    rw [List.cons_append, splitPort_cons (by simp), if_neg opening, if_neg closing, ih more,
      List.cons_append]

theorem splitPort_append_of_written (written : Host.Written host) (tail : List Char) :
    splitPort false (host ++ tail)
      = (host ++ (splitPort false tail).1, (splitPort false tail).2) := by
  cases written with
  | name filled uncut => exact splitPort_name_append (fun c mem => (uncut c mem).2) tail
  | @long number uncut =>
    have inside := splitPort_number_append (fun c mem => (uncut c mem).2) tail
    rw [List.cons_append, List.append_assoc, List.singleton_append, splitPort_cons (by decide),
      if_pos rfl, inside, List.cons_append, List.append_assoc, List.singleton_append]

/-- The port of a host can go without saying, but it is a good one. -/
theorem exists_parsePort?_cons {digits : List Char} {port : Nat}
    (number : Host.digits? 10 digits = some port) (bounded : port ≤ portLimit) :
    ∃ said, parsePort? (':' :: digits) = some said := by
  rw [parsePort?, number]
  simp only [Option.bind_eq_bind, Option.bind_some, if_neg (Nat.not_lt.2 bounded)]
  split
  · exact ⟨none, rfl⟩
  · exact ⟨some port, rfl⟩

/-- A host with its port is not cut, and it is read as the two. -/
theorem NamesHost.exists_parts (names : NamesHost authority) :
    authority ≠ [] ∧ (∀ c ∈ authority, c ∉ Host.cuts) ∧
      ∃ host port, Host.parse? (splitPort false authority).1 = some host ∧
        parsePort? (splitPort false authority).2 = some port := by
  cases names with
  | alone good =>
    have written := Host.written_of_parse? good
    obtain ⟨host, read⟩ := Option.isSome_iff_exists.1 good
    have parts : splitPort false authority = (authority, []) := by
      simpa [splitPort] using splitPort_append_of_written written []
    rw [parts]
    exact ⟨written.ne_nil, written.not_mem_cuts, host, none, read, rfl⟩
  | @withPort text digits port good number bounded =>
    have written := Host.written_of_parse? good
    obtain ⟨host, read⟩ := Option.isSome_iff_exists.1 good
    obtain ⟨said, readPort⟩ := exists_parsePort?_cons number bounded
    have parts : splitPort false (text ++ ':' :: digits) = (text, ':' :: digits) := by
      simpa [splitPort] using splitPort_append_of_written written (':' :: digits)
    rw [parts]
    refine ⟨by simp, ?_, host, said, read, readPort⟩
    intro c mem
    rcases List.mem_append.1 mem with mem | mem
    · exact written.not_mem_cuts c mem
    rcases List.mem_cons.1 mem with rfl | mem
    · decide
    · exact Host.not_mem_cuts_of_digits? (number ▸ rfl) c mem

/-! ### Reading an address -/

theorem isIgnored_of_not_mem_cuts (uncut : c ∉ Host.cuts) : (!isIgnored c) = true := by
  simp only [Host.cuts, List.mem_cons, not_or] at uncut
  simp [isIgnored, uncut]

theorem endsAuthority_of_not_mem_cuts (uncut : c ∉ Host.cuts) : (!endsAuthority c) = true := by
  simp only [Host.cuts, List.mem_cons, not_or] at uncut
  simp [endsAuthority, isSlash, uncut]

/-- A text without an at-sign names no user. -/
theorem withoutUser_of_not_mem (anonymous : '@' ∉ authority) :
    withoutUser authority = authority := by
  unfold withoutUser
  rw [List.takeWhile_eq_self_iff.2, List.reverse_reverse]
  intro c mem
  rw [List.mem_reverse] at mem
  exact decide_eq_true fun same => anonymous (same ▸ mem)

theorem filter_isIgnored (counted : text.all (!isIgnored ·)) :
    text.filter (!isIgnored ·) = text :=
  List.filter_eq_self.2 (List.all_eq_true.1 counted)

/-- Host and port end where the path begins, and not before. -/
theorem takeWhile_and_dropWhile_endsAuthority (uncut : ∀ c ∈ authority, c ∉ Host.cuts)
    (steps : List Char) :
    (authority ++ '/' :: steps).takeWhile (!endsAuthority ·) = authority ∧
      (authority ++ '/' :: steps).dropWhile (!endsAuthority ·) = '/' :: steps := by
  have inside : ∀ c ∈ authority, (!endsAuthority c) = true := fun c mem =>
    endsAuthority_of_not_mem_cuts (uncut c mem)
  constructor
  · rw [List.takeWhile_append_of_pos inside, List.takeWhile_cons_of_neg (by decide), List.append_nil]
  · rw [List.dropWhile_append_of_pos inside, List.dropWhile_cons_of_neg (by decide)]

/-- Of the slashes in front of a host none belongs to it. -/
theorem dropWhile_isSlash (filled : authority ≠ []) (uncut : ∀ c ∈ authority, c ∉ Host.cuts)
    (rest : List Char) :
    ('/' :: '/' :: (authority ++ rest)).dropWhile isSlash = authority ++ rest := by
  obtain ⟨c, more, rfl⟩ := List.exists_cons_of_ne_nil filled
  have first : ¬ isSlash c := by
    intro slash
    have stays := endsAuthority_of_not_mem_cuts (uncut c List.mem_cons_self)
    rw [endsAuthority, slash] at stays
    cases stays
  rw [List.dropWhile_cons_of_pos (by decide), List.dropWhile_cons_of_pos (by decide),
    List.cons_append, List.dropWhile_cons_of_neg first]

/-- **An address is cut where it has been put together.** -/
theorem parse?_address (filled : authority ≠ []) (uncut : ∀ c ∈ authority, c ∉ Host.cuts)
    {path : List Char} (rooted : path.head? = some '/') (counted : path.all (!isIgnored ·)) :
    parse? ("http://" ++ String.ofList authority ++ String.ofList path) = do
      let host ← Host.parse? (splitPort false authority).1
      let port ← parsePort? (splitPort false authority).2
      return ⟨host, port, requestTarget path⟩ := by
  obtain ⟨steps, rfl⟩ := List.head?_eq_some_iff.1 rooted
  have chars : ("http://" ++ String.ofList authority ++ String.ofList ('/' :: steps)).toList
      = scheme ++ '/' :: '/' :: (authority ++ '/' :: steps) := by
    simp [scheme]
  have named : authority.all (!isIgnored ·) :=
    List.all_eq_true.2 fun c mem => isIgnored_of_not_mem_cuts (uncut c mem)
  have before : scheme.all (!isIgnored ·) := by decide
  have whole : (scheme ++ '/' :: '/' :: (authority ++ '/' :: steps)).all (!isIgnored ·) := by
    rw [List.all_append, before, List.all_cons, List.all_cons, List.all_append, named]
    exact counted
  obtain ⟨front, back⟩ := takeWhile_and_dropWhile_endsAuthority uncut steps
  have anonymous : '@' ∉ authority := fun mem => uncut '@' mem (by decide)
  unfold parse?
  -- each of the readers in turn finds the parts as they have been put together
  rw [chars, filter_isIgnored whole]
  simp only [List.take_left, List.drop_left, dropWhile_isSlash filled uncut, front, back,
    withoutUser_of_not_mem anonymous]
  rfl

end Url

namespace Service

variable {authority : List Char}

/-! ### The endpoint -/

theorem withoutSlashes_append_replicate (unslashed : '/' ∉ authority) (n : Nat) :
    withoutSlashes (authority ++ List.replicate n '/') = authority := by
  have slashes : ∀ c ∈ List.replicate n '/', decide (c = '/') = true := by
    intro c mem
    exact decide_eq_true (List.eq_of_mem_replicate mem)
  have kept : authority.reverse.dropWhile (· = '/') = authority.reverse := by
    rw [List.dropWhile_eq_self_iff]
    intro nonempty slash
    have mem := List.getElem_mem nonempty
    rw [of_decide_eq_true slash, List.mem_reverse] at mem
    exact unslashed mem
  rw [withoutSlashes, List.reverse_append, List.reverse_replicate,
    List.dropWhile_append_of_pos slashes, kept, List.reverse_reverse]

theorem requestTarget_endpointPath :
    Url.requestTarget endpointPath.toList = endpointPath.toList := by
  decide

/-- **Slashes behind a host do not count**: its endpoint has one address, whatever their number. -/
theorem parse?_endpoint {authority : String} (names : Url.NamesHost authority.toList) :
    ∃ host port, ∀ n : Nat,
      Url.parse? (endpoint (authority ++ String.ofList (List.replicate n '/')))
        = some ⟨host, port, endpointPath.toList⟩ := by
  obtain ⟨filled, uncut, host, port, read, number⟩ := names.exists_parts
  refine ⟨host, port, fun n => ?_⟩
  have unslashed : '/' ∉ authority.toList := fun mem => uncut '/' mem (by decide)
  have address : endpoint (authority ++ String.ofList (List.replicate n '/'))
      = "http://" ++ String.ofList authority.toList ++ String.ofList endpointPath.toList := by
    rw [endpoint, String.toList_append, String.toList_ofList,
      withoutSlashes_append_replicate unslashed, String.ofList_toList (s := endpointPath)]
  rw [address, Url.parse?_address filled uncut (by decide) (by decide), read, number,
    requestTarget_endpointPath]
  rfl

end Service

end PackageRelease
