import Mathlib.Data.List.Basic
import Uplink.Channel
/-!
# Versions on a channel

The published versions are numbered from one on, and the latest of them is the last. What the
sender's side does only adds versions, until it is gone; it leaves alone what the receiver has seen,
and takes back no reason to wake it.
-/

namespace Uplink

namespace Channel

variable {α : Type} {channel after : Channel α}

/-! ## The published versions -/

/-- The versions published, with their numbers. -/
def numbered (channel : Channel α) : List (Nat × α) := (channel.published.zipIdx 1).map Prod.swap

@[simp] theorem length_numbered (channel : Channel α) :
    channel.numbered.length = channel.version := by
  simp only [numbered, List.length_map, List.length_zipIdx, version]

theorem map_fst_numbered (channel : Channel α) :
    channel.numbered.map Prod.fst = List.range' 1 channel.version := by
  unfold numbered
  rw [List.map_map]
  exact List.zipIdx_map_snd 1 channel.published

theorem getLast?_numbered (channel : Channel α) : channel.numbered.getLast? = channel.latest? := by
  simp [numbered, latest?, version, Function.comp_def]

theorem take_version_numbered (channel : Channel α) :
    channel.numbered.take channel.version = channel.numbered := by
  rw [← length_numbered, List.take_length]

theorem exists_latest (h : 0 < channel.version) :
    ∃ call, channel.latest? = some call ∧
      channel.numbered = channel.numbered.take (channel.version - 1) ++ [call] := by
  have hne : channel.numbered ≠ [] := by
    rw [← List.length_pos_iff, length_numbered]
    exact h
  refine ⟨channel.numbered.getLast hne, ?_, ?_⟩
  · rw [← getLast?_numbered, List.getLast?_eq_some_getLast hne]
  · rw [← length_numbered, ← List.dropLast_eq_take, List.dropLast_concat_getLast hne]

theorem notice?_eq_news_iff : channel.notice? = some .news ↔ channel.seen < channel.version := by
  simp [notice?]

theorem notice?_eq_senderGone_iff :
    channel.notice? = some .senderGone ↔
      channel.seen = channel.version ∧ channel.senderGone = true := by
  have hseen : channel.seen ≤ channel.version := channel.seen_le
  rw [notice?]
  split <;> simp <;> omega

theorem notice?_ne_none_iff :
    channel.notice? ≠ none ↔ channel.seen < channel.version ∨ channel.senderGone = true := by
  rw [notice?]
  split <;> simp [*]

theorem seen_eq_of_notice? (h : channel.notice? = none) : channel.seen = channel.version := by
  refine Nat.le_antisymm channel.seen_le (Nat.le_of_not_lt fun hnews ↦ ?_)
  exact notice?_ne_none_iff.2 (.inl hnews) h

/-! ## What the sender does -/

/-- Whether the sender's side can take the channel from the one state to the other. -/
structure Extends (channel after : Channel α) : Prop where
  seen_eq : after.seen = channel.seen
  published : channel.published <+: after.published
  gone : channel.senderGone = true → after.senderGone = true ∧ after.published = channel.published

theorem extends_refl (channel : Channel α) : channel.Extends channel :=
  ⟨rfl, List.prefix_rfl, fun hgone ↦ ⟨hgone, rfl⟩⟩

theorem extends_publish (channel : Channel α) (value : α) :
    channel.Extends (channel.publish value) := by
  unfold publish
  split
  · exact extends_refl channel
  · exact ⟨rfl, List.prefix_append _ _, fun hgone ↦ absurd hgone ‹_›⟩

theorem extends_dropSender (channel : Channel α) : channel.Extends channel.dropSender :=
  ⟨rfl, List.prefix_rfl, fun _ ↦ ⟨rfl, rfl⟩⟩

theorem Extends.version_le (h : channel.Extends after) : channel.version ≤ after.version :=
  h.published.length_le

theorem Extends.notice?_ne_none (h : channel.Extends after) (hnotice : channel.notice? ≠ none) :
    after.notice? ≠ none := by
  rw [notice?_ne_none_iff, h.seen_eq]
  rcases notice?_ne_none_iff.1 hnotice with hnews | hgone
  · exact .inl (Nat.lt_of_lt_of_le hnews h.version_le)
  · exact .inr (h.gone hgone).1

theorem Extends.take_numbered (h : channel.Extends after) {count : Nat}
    (hcount : count ≤ channel.version) :
    after.numbered.take count = channel.numbered.take count := by
  obtain ⟨more, hmore⟩ := h.published
  unfold numbered
  rw [← hmore, List.zipIdx_append, List.map_append]
  refine List.take_append_of_le_length ?_
  rw [List.length_map, List.length_zipIdx]
  exact hcount

theorem notice?_publish_ne_none (channel : Channel α) (value : α) :
    (channel.publish value).notice? ≠ none := by
  rw [notice?_ne_none_iff]
  unfold publish
  split
  · exact .inr ‹_›
  · refine .inl ?_
    simp only [version, List.length_append, List.length_singleton]
    exact Nat.lt_succ_of_le channel.seen_le

end Channel

end Uplink
