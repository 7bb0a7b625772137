import AirportAwdl.Sync

/-!
# What an accepted synchronization action guarantees

The decoder accumulates its checks over an arbitrary TLV order, so the guarantee is an
invariant of the TLV loop (`ScanChecked`), kept by every TLV handler and turned into
`SyncMessage.Checked` by the closing checks.
-/

namespace AirportAwdl

open ByteBuffer

/-- A channel list that passed `decodeChannelSequence`. -/
structure ChannelSequence.Checked (c : ChannelSequence) : Prop where
  count_eq : c.count = 16
  channel_le : ∀ i : Fin 16, c.channel[i] ≤ 196

/-- Clock fields that passed the checks of TLV 4. -/
structure SyncMessage.ClockChecked (m : SyncMessage) : Prop where
  presence_ne : m.presence ≠ 0
  presence_le : m.presence ≤ 16
  presence_pow : m.presence &&& (m.presence - 1) = 0
  countdown_le : m.countdownTu.toNat ≤ m.periodTu.toNat * m.presence.toNat

/-- Everything a valid message guarantees to the election engine. -/
structure SyncMessage.Checked (m : SyncMessage) : Prop extends m.ClockChecked where
  sequence_checked : m.sequence.Checked
  stride_eq : m.sequence.stride = m.presence
  master_unicast : unicast m.master
  syncAddress_unicast : m.electionPresent → unicast m.syncAddress

/-- Loop invariant of the decoder: whatever has been seen has been checked. -/
structure ScanChecked (s : SyncScan) : Prop where
  sync : s.haveSync → s.decoded.ClockChecked ∧ unicast s.decoded.master
  sequence : s.haveSequence → s.decoded.sequence.Checked
  embedded : s.haveEmbedded → s.embedded.Checked
  election : s.decoded.electionPresent → unicast s.electedMaster ∧ unicast s.decoded.syncAddress

variable {p : Bytes} {s s' : SyncScan}

lemma decodeChannelSequence_checked {c : ChannelSequence}
    (h : decodeChannelSequence p = .ok c) : c.Checked := by
  unfold decodeChannelSequence at h
  split at h
  · cases h
  · dsimp only at h
    split at h
    · cases h
    · split at h
      · cases h
      · split at h
        · cases h
        · split at h
          · rename_i hall
            cases h
            refine ⟨rfl, fun i => ?_⟩
            have hi := List.all_eq_true.mp hall i.val (List.mem_range.mpr i.isLt)
            simp only [entryAllowed, Bool.and_eq_true, decide_eq_true_eq] at hi
            simpa using hi.1
          · cases h

lemma scanSync_checked (hs : ScanChecked s) (h : scanSync s p = .ok s') : ScanChecked s' := by
  unfold scanSync at h
  split at h
  · cases h
  · dsimp only at h
    split at h
    · cases h
    · rename_i hclock
      simp only [not_or, not_lt, gt_iff_lt, Bool.not_eq_true', Bool.not_eq_false, ne_eq,
        not_not] at hclock
      obtain ⟨-, -, hne, hgt, hpow, hcd, -, huni⟩ := hclock
      have hle : byteAt p 27 ≤ 16 := UInt8.not_lt.mp hgt
      split at h
      · cases h
      · split at h
        · split at h
          · cases h
          · rename_i embedded hdec
            cases h
            exact ⟨fun _ => ⟨⟨hne, hle, hpow, hcd⟩, huni⟩, hs.sequence,
              fun _ => decodeChannelSequence_checked hdec, hs.election⟩
        · cases h
          exact ⟨fun _ => ⟨⟨hne, hle, hpow, hcd⟩, huni⟩, hs.sequence, hs.embedded, hs.election⟩

lemma scanSequence_checked (hs : ScanChecked s)
    (h : scanSequence s p = .ok s') : ScanChecked s' := by
  unfold scanSequence at h
  split at h
  · cases h
  · split at h
    · cases h
    · rename_i sequence hdec
      cases h
      refine ⟨fun hsync => ?_, fun _ => decodeChannelSequence_checked hdec, hs.embedded,
        hs.election⟩
      obtain ⟨⟨hne, hle, hpow, hcd⟩, huni⟩ := hs.sync hsync
      exact ⟨⟨hne, hle, hpow, hcd⟩, huni⟩

lemma scanElection_checked (hs : ScanChecked s)
    (h : scanElection s p = .ok s') : ScanChecked s' := by
  unfold scanElection at h
  split at h
  · cases h
  · dsimp only at h
    split at h
    · cases h
    · rename_i huni
      simp only [not_or, Bool.not_eq_true', Bool.not_eq_false] at huni
      cases h
      refine ⟨fun hsync => ?_, hs.sequence, hs.embedded, fun _ => huni⟩
      obtain ⟨⟨hne, hle, hpow, hcd⟩, hmaster⟩ := hs.sync hsync
      exact ⟨⟨hne, hle, hpow, hcd⟩, hmaster⟩

lemma scanVersion_checked (hs : ScanChecked s) (h : scanVersion s p = .ok s') : ScanChecked s' := by
  unfold scanVersion at h
  split at h
  · cases h
  · cases h
    refine ⟨fun hsync => ?_, hs.sequence, hs.embedded, hs.election⟩
    obtain ⟨⟨hne, hle, hpow, hcd⟩, hmaster⟩ := hs.sync hsync
    exact ⟨⟨hne, hle, hpow, hcd⟩, hmaster⟩

lemma scanTlv_checked {t : Tlv} (hs : ScanChecked s)
    (h : scanTlv s t = .ok s') : ScanChecked s' := by
  unfold scanTlv at h
  split at h
  · exact scanSync_checked hs h
  · split at h
    · exact scanSequence_checked hs h
    · split at h
      · exact scanElection_checked hs h
      · split at h
        · exact scanVersion_checked hs h
        · cases h
          exact hs

lemma finishSync_checked {m : SyncMessage} (hs : ScanChecked s)
    (h : finishSync s = .ok m) : m.Checked := by
  unfold finishSync at h
  split at h
  · cases h
  · rename_i hsync
    simp only [Bool.not_eq_true', Bool.not_eq_false] at hsync
    obtain ⟨⟨hne, hle, hpow, hcd⟩, hmaster⟩ := hs.sync hsync
    -- the election root replaces the clock root only when it was checked as well
    set d := if s.decoded.electionPresent then { s.decoded with master := s.electedMaster }
      else s.decoded with hd
    have hdclock : d.ClockChecked ∧ unicast d.master ∧ d.sequence = s.decoded.sequence ∧
        (d.electionPresent → unicast d.syncAddress) := by
      rw [hd]
      split
      · rename_i hel
        exact ⟨⟨hne, hle, hpow, hcd⟩, (hs.election hel).1, rfl, fun _ => (hs.election hel).2⟩
      · rename_i hel
        exact ⟨⟨hne, hle, hpow, hcd⟩, hmaster, rfl, fun hc => absurd hc hel⟩
    obtain ⟨⟨dne, dle, dpow, dcd⟩, dmaster, dseq, daddr⟩ := hdclock
    by_cases hseq : s.haveSequence = true
    · simp only [hseq, if_true, Bool.not_true, Bool.false_eq_true, false_and, if_false] at h
      split at h
      · cases h
      · split at h
        · cases h
        · rename_i hstride
          obtain rfl := Except.ok.inj h
          exact { presence_ne := dne, presence_le := dle, presence_pow := dpow,
                  countdown_le := dcd, sequence_checked := dseq ▸ hs.sequence hseq,
                  stride_eq := not_not.mp hstride, master_unicast := dmaster,
                  syncAddress_unicast := daddr }
    · simp only [hseq, Bool.false_eq_true, false_and, if_false, Bool.not_false, true_and] at h
      split at h
      · cases h
      · rename_i hemb
        split at h
        · cases h
        · rename_i hstride
          cases h
          simp only [Bool.not_eq_true', Bool.not_eq_false] at hemb
          exact { presence_ne := dne, presence_le := dle, presence_pow := dpow,
                  countdown_le := dcd, sequence_checked := hs.embedded hemb,
                  stride_eq := not_not.mp hstride, master_unicast := dmaster,
                  syncAddress_unicast := daddr }

/-- A valid synchronization message passed every check of the decoder, whatever the order
and number of the TLVs it came from. -/
theorem decodeSyncAction_checked {body : Bytes} {m : SyncMessage}
    (h : decodeSyncAction body = (.valid, m)) : m.Checked := by
  unfold decodeSyncAction at h
  split at h
  · rename_i refusal _
    cases refusal <;> simp [SyncRefusal.status] at h
  · rename_i decoded hb
    simp only [Prod.mk.injEq, true_and] at h
    subst h
    unfold decodeSyncBody at hb
    split at hb
    · cases hb
    · cases hb
    · split at hb
      · cases hb
      · dsimp only at hb
        split at hb
        · cases hb
        · rename_i s cursor hloop
          split at hb
          · cases hb
          · refine finishSync_checked ?_ hb
            refine TlvCursor.forEach_invariant (P := ScanChecked)
              (fun _ _ _ hs ht => scanTlv_checked hs ht) _ _ _ _ _ ?_ hloop
            exact ⟨by simp, by simp, by simp, by simp⟩

end AirportAwdl
