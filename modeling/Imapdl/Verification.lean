import Mathlib.Data.String.Basic

/-!
# imapdl - Certificate verification with a pinned fingerprint

`Net::SSL::Verification` is the verify callback of the TLS handshake.  It counts its calls in
`pos_`, compares the pinned fingerprint with the certificate of the first call, caches a match
in `result_`, and otherwise defers to the wrapped rfc2818 verifier `default_`.  The model keeps
the counter and the cache as the object's state and runs the callback over any sequence of
calls.

Main results:

- Theorem {lit}`Verification.run_new`: the results of every call sequence.  Without a pin every
  call returns what {lit}`default_` returns; with one, the first call returns the comparison and
  every later call returns true if it held and {lit}`default_` otherwise.
- Theorem {lit}`Verification.run_pins_first_callback`: the pin is compared with the first
  certificate the library presents, whatever its depth; a chain presented root first is refused
  although its leaf matches the pin.
- Theorem {lit}`Verification.accepts_iff_first_matches`: with a pin, every call of a sequence
  returns true exactly when the pin matches the first certificate presented.
- Theorem {lit}`Verification.run_new_pins_digest`: a pin given, in either case, as the
  fingerprint of a certificate makes the first call accept exactly the certificates with its
  digest, since {lit}`hex` is injective.

Current gaps:

- The digest and the rfc2818 verifier are library code; the certificate is abstracted to the
  SHA-1 digest {lit}`X509_digest` computes of it, and {lit}`default_` is a parameter.
-/

namespace Imapdl
namespace SSL

/-! ## Fingerprints -/

/-- The digits `boost::algorithm::hex` writes. -/
def hexDigits : List Char :=
  ['0', '1', '2', '3', '4', '5', '6', '7', '8', '9', 'A', 'B', 'C', 'D', 'E', 'F']

/-- The two digits `boost::algorithm::hex` writes for a byte, high nibble first. -/
def hexByte (b : UInt8) : List Char :=
  [hexDigits.getD (b.toNat / 16) '0', hexDigits.getD (b.toNat % 16) '0']

/-- `boost::algorithm::hex` over the digest bytes, into the `ostringstream fp`. -/
def hex (bs : List UInt8) : String := ⟨bs.flatMap hexByte⟩

/-- A peer certificate as the callback reads it: the SHA-1 digest `X509_digest` computes of
its DER encoding, twenty bytes. -/
structure Certificate where
  digest : List UInt8
  digest_length : digest.length = 20

/-- `asio::ssl::verify_context`: the certificate under verification and its chain depth. -/
structure Context where
  certificate : Certificate
  depth : Nat

theorem toUpper_hexDigit (n : Nat) : (hexDigits.getD n '0').toUpper = hexDigits.getD n '0' := by
  have hd : ∀ c ∈ hexDigits, c.toUpper = c := by decide
  rw [List.getD_eq_getElem?_getD]
  cases h : hexDigits[n]? with
  | none => rfl
  | some c => exact hd c (List.getElem?_mem h)

theorem toUpper_hexByte (b : UInt8) : (hexByte b).map Char.toUpper = hexByte b := by
  simp only [hexByte, List.map_cons, List.map_nil, toUpper_hexDigit]

/-- The fingerprint the callback computes is already upper case. -/
theorem toUpper_hex (bs : List UInt8) : (hex bs).toUpper = hex bs := by
  simp only [String.toUpper, String.map_eq, hex, List.map_flatMap, toUpper_hexByte]

/-! ## A fingerprint identifies the digest -/

/-- The value of a digit of {lit}`hexDigits`: its position. -/
def hexValue (c : Char) : Nat := hexDigits.indexOf c

theorem hexValue_getD : ∀ n : Nat, n < 16 → hexValue (hexDigits.getD n '0') = n
  | 0, _ | 1, _ | 2, _ | 3, _ | 4, _ | 5, _ | 6, _ | 7, _ | 8, _ | 9, _ | 10, _ | 11, _ | 12, _
  | 13, _ | 14, _ | 15, _ => rfl
  | _ + 16, h => absurd h (by omega)

/-- The two digits of a byte give it back: sixteen times the value of the first plus that of
the second. -/
theorem hexByte_injective {a b : UInt8} (h : hexByte a = hexByte b) : a = b := by
  have ha : a.toNat < 256 := a.toNat_lt_size
  have hb : b.toNat < 256 := b.toNat_lt_size
  simp only [hexByte, List.cons.injEq, and_true] at h
  have h₁ := congrArg hexValue h.1
  have h₂ := congrArg hexValue h.2
  rw [hexValue_getD _ (by omega), hexValue_getD _ (by omega)] at h₁ h₂
  exact UInt8.eq_of_val_eq (Fin.ext (show a.toNat = b.toNat by omega))

/-- Two digests with the same fingerprint are equal. -/
theorem hex_injective {as bs : List UInt8} (h : hex as = hex bs) : as = bs := by
  replace h : as.flatMap hexByte = bs.flatMap hexByte := congrArg String.data h
  induction as generalizing bs with
  | nil => cases bs with
    | nil => rfl
    | cons b bs => simp [hexByte] at h
  | cons a as ih => cases bs with
    | nil => simp [hexByte] at h
    | cons b bs =>
      simp only [List.flatMap_cons] at h
      obtain ⟨h₁, h₂⟩ := List.append_inj h rfl
      rw [hexByte_injective h₁, ih h₂]

/-! ## The verify callback -/

/-- `Net::SSL::Verification`: the pinned fingerprint, the call counter `pos_` and the cached
outcome `result_`. -/
structure Verification where
  fingerprint : String
  pos : Nat
  result : Bool

/-- The constructor: the pin in upper case; `pos_` and `result_` start at 0 and false, so that
the first call sees `pos_ == 1`. -/
def Verification.new (fingerprint : String) : Verification :=
  ⟨fingerprint.toUpper, 0, false⟩

/-- `Verification::operator()(preverified, ctx)`, `default_` being the wrapped rfc2818
verifier.  The nested test of `pos_ == 1` is kept as the source has it. -/
def Verification.call (default_ : Bool → Context → Bool) (v : Verification)
    (preverified : Bool) (ctx : Context) : Bool × Verification :=
  let v := { v with pos := v.pos + 1 }
  let fp := hex ctx.certificate.digest
  if v.result then (v.result, v)
  else if !v.fingerprint.isEmpty && v.pos == 1 then
    let v := if v.pos == 1 then { v with result := v.fingerprint == fp } else v
    (v.result, v)
  else (default_ preverified ctx, v)

/-- The results of a sequence of calls on one object. -/
def Verification.run (default_ : Bool → Context → Bool) :
    Verification → List (Bool × Context) → List Bool
  | _, [] => []
  | v, (p, ctx) :: rest =>
    (v.call default_ p ctx).1 :: (v.call default_ p ctx).2.run default_ rest

section Runs

variable (default_ : Bool → Context → Bool)

theorem Verification.run_cons (v : Verification) (x : Bool × Context)
    (rest : List (Bool × Context)) :
    v.run default_ (x :: rest) =
      (v.call default_ x.1 x.2).1 :: (v.call default_ x.1 x.2).2.run default_ rest := rfl

/-- Once a pinned match is cached, every later call returns true. -/
theorem Verification.run_of_result (v : Verification) (h : v.result = true)
    (calls : List (Bool × Context)) : v.run default_ calls = calls.map fun _ => true := by
  induction calls generalizing v with
  | nil => rfl
  | cons x rest ih =>
    rw [run_cons, List.map_cons, ih _ (by simp [call, h])]
    simp [call, h]

/-- Without a cached match, calls after the first, and all calls without a pin, are
`default_`'s. -/
theorem Verification.run_of_unpinned (v : Verification) (hr : v.result = false)
    (hp : v.fingerprint = "" ∨ v.pos ≠ 0) (calls : List (Bool × Context)) :
    v.run default_ calls = calls.map fun x => default_ x.1 x.2 := by
  induction calls generalizing v with
  | nil => rfl
  | cons x rest ih =>
    have hcall : v.call default_ x.1 x.2 = (default_ x.1 x.2, { v with pos := v.pos + 1 }) := by
      rcases hp with hp | hp <;> simp [call, hr, hp, String.isEmpty_iff]
    rw [run_cons, hcall, List.map_cons,
      ih { v with pos := v.pos + 1 } hr (.inr (Nat.succ_ne_zero _))]

theorem toUpper_eq_empty (F : String) : F.toUpper = "" ↔ F = "" := by
  simp [String.toUpper, String.map_eq, String.ext_iff]

/-- Without a pin every call is `default_`'s. -/
theorem Verification.run_new_unpinned (calls : List (Bool × Context)) :
    (Verification.new "").run default_ calls = calls.map fun x => default_ x.1 x.2 :=
  run_of_unpinned default_ _ rfl (.inl ((toUpper_eq_empty "").2 rfl)) calls

/-- With a pin, the first call compares it with the first certificate, and each later call is
true if it matched and `default_`'s otherwise. -/
theorem Verification.run_new_pinned (F : String) (hF : F ≠ "") (x : Bool × Context)
    (rest : List (Bool × Context)) :
    (Verification.new F).run default_ (x :: rest) =
      (F.toUpper == hex x.2.certificate.digest) ::
        rest.map fun y => (F.toUpper == hex x.2.certificate.digest) || default_ y.1 y.2 := by
  have hne : ¬F.toUpper.isEmpty := by simpa [String.isEmpty_iff, toUpper_eq_empty] using hF
  have hcall : (Verification.new F).call default_ x.1 x.2 =
      (F.toUpper == hex x.2.certificate.digest,
        ⟨F.toUpper, 1, F.toUpper == hex x.2.certificate.digest⟩) := by
    simp [call, new, hne]
  rw [run_cons, hcall]
  cases hm : (F.toUpper == hex x.2.certificate.digest)
  · rw [run_of_unpinned default_ ⟨F.toUpper, 1, false⟩ rfl (.inr one_ne_zero) rest]
    simp [hm]
  · rw [run_of_result default_ ⟨F.toUpper, 1, true⟩ rfl rest]
    simp [hm]

/-- Every call sequence of a fresh object: without a pin each call is `default_`'s; with one,
the first call is the comparison of the pin with the first certificate, and each later call is
true if it matched and `default_`'s otherwise. -/
theorem Verification.run_new (F : String) (calls : List (Bool × Context)) :
    (Verification.new F).run default_ calls =
      if F = "" then calls.map fun x => default_ x.1 x.2
      else match calls with
        | [] => []
        | x :: rest =>
          (F.toUpper == hex x.2.certificate.digest) ::
            rest.map fun y => (F.toUpper == hex x.2.certificate.digest) || default_ y.1 y.2 := by
  by_cases hF : F = ""
  · subst hF
    exact run_new_unpinned default_ calls
  · rw [if_neg hF]
    cases calls with
    | nil => rfl
    | cons x rest => exact run_new_pinned default_ F hF x rest

end Runs

/-! ## Pinning and the order of the chain -/

/-- A certification authority's certificate, by its digest. -/
def rootCertificate : Certificate := ⟨List.replicate 20 0xCD, rfl⟩

/-- The server's certificate, signed by `rootCertificate`, by its digest. -/
def leafCertificate : Certificate := ⟨List.replicate 20 0xAB, rfl⟩

/-- The pin is the leaf's fingerprint, and the library presents the chain root first, as
OpenSSL does: the first call compares the pin with the root and refuses the handshake, though
the depth-0 certificate matches.  `default_` accepts what the library preverified, as the
rfc2818 verifier does on a host name it matches. -/
theorem Verification.run_pins_first_callback :
    (Verification.new (hex leafCertificate.digest)).run (fun p _ => p)
        [(true, ⟨rootCertificate, 1⟩), (true, ⟨leafCertificate, 0⟩)] = [false, true] ∧
      hex leafCertificate.digest = (hex leafCertificate.digest).toUpper := by
  refine ⟨?_, (toUpper_hex _).symm⟩
  rw [Verification.new, toUpper_hex]
  decide

/-- A SHA-1 fingerprint has the 40 characters of the configured format. -/
example : (hex leafCertificate.digest).length = 40 := by
  decide

/-- With a pin, a sequence of calls is accepted, every call returning true, exactly when the pin
matches the certificate of the first call, whatever its depth in the chain. -/
theorem Verification.accepts_iff_first_matches (default_ : Bool → Context → Bool) (F : String)
    (hF : F ≠ "") (x : Bool × Context) (rest : List (Bool × Context)) :
    (∀ b ∈ (Verification.new F).run default_ (x :: rest), b = true) ↔
      hex x.2.certificate.digest = F.toUpper := by
  rw [run_new_pinned default_ F hF]
  constructor
  · intro h
    exact (beq_iff_eq.1 (h _ (List.mem_cons_self _ _))).symm
  · intro h b hb
    rw [← h] at hb
    simp only [beq_self_eq_true, Bool.true_or, List.mem_cons, List.mem_map] at hb
    rcases hb with hb | ⟨-, -, hb⟩
    exacts [hb, hb.symm]

theorem Verification.accepts_iff_first_matches_root :
    hex leafCertificate.digest ≠ "" ∧
      ((∀ b ∈ (Verification.new (hex leafCertificate.digest)).run (fun p _ => p)
          [(true, ⟨rootCertificate, 1⟩), (true, ⟨leafCertificate, 0⟩)], b = true) ↔
        hex rootCertificate.digest = (hex leafCertificate.digest).toUpper) :=
  have hF : hex leafCertificate.digest ≠ "" := by decide
  ⟨hF, Verification.accepts_iff_first_matches (fun p _ => p) _ hF _ _⟩

/-- With a pin given, in either case, as the fingerprint of a certificate {lit}`c₀`, the first
call accepts exactly the certificates with the SHA-1 digest of {lit}`c₀`, and each later call is
true if it did and {lit}`default_`'s otherwise: no other digest has the pinned fingerprint. -/
theorem Verification.run_new_pins_digest (default_ : Bool → Context → Bool) (F : String)
    (c₀ : Certificate) (hF : F.toUpper = hex c₀.digest) (x : Bool × Context)
    (rest : List (Bool × Context)) :
    (Verification.new F).run default_ (x :: rest) =
      decide (x.2.certificate.digest = c₀.digest) ::
        rest.map fun y => decide (x.2.certificate.digest = c₀.digest) || default_ y.1 y.2 := by
  have hne : F ≠ "" := by
    rintro rfl
    obtain ⟨_ | ⟨b, bs⟩, hl⟩ := c₀
    · cases hl
    · rw [(toUpper_eq_empty "").2 rfl] at hF
      exact List.cons_ne_nil _ _ (congrArg String.data hF).symm
  have key : (hex c₀.digest == hex x.2.certificate.digest) =
      decide (x.2.certificate.digest = c₀.digest) :=
    Bool.eq_iff_iff.2 (by
      rw [beq_iff_eq, decide_eq_true_iff]
      exact ⟨fun h => (hex_injective h).symm, fun h => h ▸ rfl⟩)
  rw [run_new_pinned default_ F hne, hF, key]

theorem Verification.run_new_pins_digest_chain :
    (hex leafCertificate.digest).toUpper = hex leafCertificate.digest ∧
      (Verification.new (hex leafCertificate.digest)).run (fun p _ => p)
          ((true, ⟨rootCertificate, 1⟩) :: [(true, ⟨leafCertificate, 0⟩)]) =
        decide (rootCertificate.digest = leafCertificate.digest) ::
          [((true, ⟨leafCertificate, 0⟩) : Bool × Context)].map fun y =>
            decide (rootCertificate.digest = leafCertificate.digest) || y.1 :=
  ⟨toUpper_hex _,
    Verification.run_new_pins_digest (fun p _ => p) _ leafCertificate (toUpper_hex _) _ _⟩

end SSL
end Imapdl
