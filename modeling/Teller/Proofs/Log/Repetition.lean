import Teller.Proofs.Log.Passwords

/-!
# Masking twice

A message is masked before and after its arguments are written into it. For a text that has been
masked once, only keys and passwords can make a difference the second time: keys, because the mask
of a seed phrase may set apart a key that was a part of a word; passwords, because their mask is a
password itself, with all that follows it up to a blank or a quotation mark.

    redactAll_redactAll             only masking keys and passwords counts the second time
    redact_redact_eq_iff            when nothing changes
    redact_redact_signIn            what follows a password in a document is lost
-/

namespace Teller.Log

open Text

variable {cs : List Char}

theorem redactAll_eq (cs : List Char) : redactAll cs = credential.apply (password.apply (accessToken.apply
    (seedPhrase.apply (walletKey.apply (keyBlock.apply cs))))) := by
  simp only [redactAll, secretRules, List.foldl_cons, List.foldl_nil]

/-- Only masking keys and passwords counts the second time. -/
theorem redactAll_redactAll (cs : List Char) :
    redactAll (redactAll cs) = password.apply (walletKey.apply (redactAll cs)) := by
  have known {rule : SecretRule} (h : rule = keyBlock ∨ rule = walletKey ∨ rule = seedPhrase ∨
      rule = accessToken ∨ rule = password ∨ rule = credential) : rule ∈ secretRules := by
    simpa [secretRules] using h
  have keyBlocks := isShownBy_keyBlock.spares_redactAll (known (by simp)) cs
  have seedPhrases := isShownBy_seedPhrase.spares_redactAll (known (by simp)) cs
  have tokens := isShownBy_accessToken.spares_redactAll (known (by simp)) cs
  have credentials := isShownBy_credential.spares_redactAll (known (by simp)) cs
  generalize redactAll cs = t at *
  have afterKeys {rule : SecretRule} {opening closing : Pattern} (shown : IsShownBy rule opening closing)
      (spares : rule.Spares t) : rule.Spares (walletKey.apply t) :=
    shown.spares_apply known_walletKey spares
  calc redactAll t
      = credential.apply (password.apply (accessToken.apply (seedPhrase.apply
          (walletKey.apply (keyBlock.apply t))))) := redactAll_eq t
    _ = credential.apply (password.apply (accessToken.apply (seedPhrase.apply (walletKey.apply t)))) := by
        rw [keyBlocks.apply_eq_self]
    _ = credential.apply (password.apply (accessToken.apply (walletKey.apply t))) := by
        rw [(afterKeys isShownBy_seedPhrase seedPhrases).apply_eq_self]
    _ = credential.apply (password.apply (walletKey.apply t)) := by
        rw [(afterKeys isShownBy_accessToken tokens).apply_eq_self]
    _ = password.apply (walletKey.apply t) :=
        (isShownBy_credential.spares_apply known_password
          (afterKeys isShownBy_credential credentials)).apply_eq_self

theorem stamped_redactAll (cs : List Char) : Stamped (redactAll cs) := by
  rw [redactAll_eq]
  exact keepsStamps_credential.stamped_apply (stamped_password_apply _)

/-- Nothing is left to mask: a blank or the end follows every mask of a password, and no key stands
between the ends of the text and characters that are in no word. -/
structure Settled (t : List Char) : Prop where
  passwords : ∀ before label after, t = before ++ (label ++ (password.mask ++ after)) →
    password.label.Accepts label → IsEnded after
  keys : ∀ before key after, t = before ++ (key ++ after) → IsKey key → IsApart before.getLast? →
    ¬IsApart after.head?

theorem settled_iff : Settled cs ↔ Sealed cs ∧ walletKey.Spares cs := by
  constructor
  · rintro ⟨passwords, keys⟩
    refine ⟨fun x label y isLabel whole => passwords x label y whole isLabel, fun x y whole => ?_⟩
    by_contra found
    obtain ⟨front, key, rest, isKey, rfl, behind⟩ := walletKey_found_iff.1 found
    exact keys x key rest whole isKey front behind
  · rintro ⟨isSealed, spares⟩
    refine ⟨fun x label y whole isLabel => isSealed x label y isLabel whole, ?_⟩
    intro x key y whole isKey front behind
    exact walletKey_found_iff.2 ⟨front, key, y, isKey, rfl, behind⟩ (spares x (key ++ y) whole)

/-- Masking a text again changes nothing exactly if nothing is left to mask. -/
theorem redact_redact_eq_iff (s : String) : redact (redact s) = redact s ↔ Settled (redact s).toList := by
  have lists : redact (redact s) = redact s ↔ redactAll (redactAll s.toList) = redactAll s.toList := by
    rw [redact, redact, String.toList_ofList, String.ofList_inj]
  rw [lists, redact, String.toList_ofList, redactAll_redactAll, settled_iff]
  have stamped := stamped_redactAll s.toList
  generalize redactAll s.toList = t at stamped
  have keyed := masked_apply (shortest_secret_pos known_walletKey) t
  have masked := masked_apply (shortest_secret_pos known_password) (walletKey.apply t)
  constructor
  · intro same
    -- no pass makes the text longer, so that none makes it shorter
    obtain ⟨short, kept⟩ := keyed.length_le (by decide)
    obtain ⟨short', kept'⟩ := masked.length_le_of_stamped (keepsStamps_walletKey.stamped_apply stamped)
    have length := congrArg List.length same
    have left := kept (by omega)
    rw [left] at kept' length
    exact ⟨(kept' length).2, left ▸ spares_walletKey_apply t⟩
  · rintro ⟨isSealed, spares⟩
    rw [spares.apply_eq_self] at masked ⊢
    exact masked.eq_of_sealed stamped isSealed

/-- A document with a password. -/
def signIn : String := "\x7b\"password\":\"hunter2\",\"status\":\"ok\"\x7d"

/-- What follows the password in a document is masked the second time. -/
theorem redact_redact_signIn :
    redact signIn = "\x7b\"password=***PASSWORD_REDACTED***,\"status\":\"ok\"\x7d" ∧
      redact (redact signIn) = "\x7b\"password=***PASSWORD_REDACTED***status\":\"ok\"\x7d" ∧
      redact (redact signIn) ≠ redact signIn := by
  have of_lists {s t : String} (h : redactAll s.toList = t.toList) : redact s = t := by
    rw [redact, h, String.ofList_toList]
  have once : redact signIn = "\x7b\"password=***PASSWORD_REDACTED***,\"status\":\"ok\"\x7d" :=
    of_lists (by decide +kernel)
  have twice : redact (redact signIn) = "\x7b\"password=***PASSWORD_REDACTED***status\":\"ok\"\x7d" := by
    rw [once]
    exact of_lists (by decide +kernel)
  exact ⟨once, twice, by rw [twice, once]; decide⟩

end Teller.Log
