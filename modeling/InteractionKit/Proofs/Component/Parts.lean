import InteractionKit.Proofs.Component.Normal
import InteractionKit.Proofs.Guild.Parts
/-
The parts of components are read back from what is written: the records inside components, then the shapes of
components without their number.

A button comes back with its style filled in, everything else as it was. A menu comes back as the kind it is read as,
because no member holds the kind. Layouts are read back as far as their children are.
-/
namespace InteractionKit

open Decoder Reader

/-! ## Records inside components -/

theorem ButtonStyle.inverts : ButtonStyle.decode.Inverts ButtonStyle.encode :=
  code_inverts fun s => by cases s <;> exact ⟨by decide, rfl⟩

theorem TextInputStyle.inverts : TextInputStyle.decode.Inverts TextInputStyle.encode :=
  code_inverts fun s => by cases s <;> exact ⟨by decide, rfl⟩

theorem Spacing.inverts : Spacing.decode.Inverts Spacing.encode :=
  code_inverts fun s => by cases s <;> exact ⟨by decide, rfl⟩

theorem EmojiRef.inverts : EmojiRef.decode.Inverts EmojiRef.encode := by
  refine ⟨fun ⟨id, name, animated⟩ => ?_, _, rfl⟩
  refine Undoes.decode ?_ (by decide)
  exact (undoes_optional Id.inverts id).map mk
    |>.seq (undoes_optional text_inverts name)
    |>.seq (undoes_flag animated)

theorem SelectOption.inverts : SelectOption.decode.Inverts SelectOption.encode := by
  refine ⟨fun ⟨label, value, description, emoji, selected⟩ => ?_, _, rfl⟩
  refine Undoes.decode ?_ (by decide)
  exact (undoes_field (text_inverts.reads label)).map mk
    |>.seq (undoes_field (text_inverts.reads value))
    |>.seq (undoes_optional text_inverts description)
    |>.seq (undoes_optional EmojiRef.inverts emoji)
    |>.seq (undoes_flag selected)

theorem DefaultKind.inverts : DefaultKind.decode.Inverts DefaultKind.encode :=
  ⟨fun k => by cases k <;> rfl, _, rfl⟩

theorem SelectDefault.inverts : SelectDefault.decode.Inverts SelectDefault.encode := by
  refine ⟨fun ⟨id, kind⟩ => ?_, _, rfl⟩
  refine Undoes.decode ?_ (by decide)
  exact (undoes_field (Id.inverts.reads id)).map mk
    |>.seq (undoes_field (DefaultKind.inverts.reads kind))

theorem MediaItem.inverts : MediaItem.decode.Inverts MediaItem.encode := by
  refine ⟨fun ⟨url, proxyUrl, width, height, contentType, attachmentId⟩ => ?_, _, rfl⟩
  refine Undoes.decode ?_ (by decide)
  exact (undoes_field (text_inverts.reads url)).map mk
    |>.seq (undoes_optional text_inverts proxyUrl)
    |>.seq (undoes_optional uint32_inverts width)
    |>.seq (undoes_optional uint32_inverts height)
    |>.seq (undoes_optional text_inverts contentType)
    |>.seq (undoes_optional Id.inverts attachmentId)

theorem GalleryItem.inverts : GalleryItem.decode.Inverts GalleryItem.encode := by
  refine ⟨fun ⟨media, description, spoiler⟩ => ?_, _, rfl⟩
  refine Undoes.decode ?_ (by decide)
  exact (undoes_field (MediaItem.inverts.reads media)).map mk
    |>.seq (undoes_optional text_inverts description)
    |>.seq (undoes_flag spoiler)

/-! ## Shapes -/

theorem Button.undoes (b : Button) : reader.Undoes b.members b.withDefaultStyle := by
  obtain ⟨id, customId, disabled, emoji, label, style, url, skuId⟩ := b
  exact (undoes_optional int32_inverts id).map mk
    |>.seq (undoes_optional text_inverts customId)
    |>.seq (undoes_flag disabled)
    |>.seq (undoes_optional EmojiRef.inverts emoji)
    |>.seq (undoes_optional text_inverts label)
    -- the style is always written, so it never comes back unset
    |>.seq (undoes_field ((ButtonStyle.inverts.reads (style.getD .primary)).nullable ButtonStyle.inverts.refusesNull))
    |>.seq (undoes_optional text_inverts url)
    |>.seq (undoes_optional Id.inverts skuId)

theorem SelectMenu.undoes {m : SelectMenu} (hm : m.Canonical) (k : MenuKind) :
    (reader k).Undoes m.members { m with kind := k } := by
  -- the kind is put in by the reader, between the first fields and the others
  have hstart : ((fun id customId => mk id customId k) <$> .optional "id" Decoder.int32
      <*> .required "custom_id" Decoder.text : Reader _).Undoes
      (memberSome "id" Json.int32 m.id ++ member "custom_id" (.str m.customId)) (mk m.id m.customId k) :=
    ((undoes_optional int32_inverts m.id).map _).seq (undoes_field (text_inverts.reads m.customId))
  exact hstart
    |>.seq (undoes_optional text_inverts m.placeholder)
    |>.seq (undoes_optional uint8_inverts m.minValues)
    |>.seq (undoes_optional uint8_inverts m.maxValues)
    |>.seq (undoes_flag m.disabled)
    |>.seq (undoes_list fun o _ => SelectOption.inverts.reads o)
    |>.seq (undoes_list fun t ht => ChannelKind.reads (hm t ht))
    |>.seq (undoes_list fun d _ => SelectDefault.inverts.reads d)
    |>.seq (undoes_optional flag_inverts m.required)
    |>.seq (undoes_list fun s _ => text_inverts.reads s)

theorem TextInput.undoes (t : TextInput) : reader.Undoes t.members t := by
  obtain ⟨id, customId, style, label, placeholder, minLength, maxLength, required, value⟩ := t
  exact (undoes_optional int32_inverts id).map mk
    |>.seq (undoes_field (text_inverts.reads customId))
    |>.seq (undoes_optional TextInputStyle.inverts style)
    |>.seq (undoes_optional text_inverts label)
    |>.seq (undoes_optional text_inverts placeholder)
    |>.seq (undoes_optional uint16_inverts minLength)
    |>.seq (undoes_optional uint16_inverts maxLength)
    |>.seq (undoes_optional flag_inverts required)
    |>.seq (undoes_optional text_inverts value)

theorem FileUpload.undoes (f : FileUpload) : reader.Undoes f.members f := by
  obtain ⟨id, customId, minValues, maxValues, required, values⟩ := f
  exact (undoes_optional int32_inverts id).map mk
    |>.seq (undoes_field (text_inverts.reads customId))
    |>.seq (undoes_optional uint8_inverts minValues)
    |>.seq (undoes_optional uint8_inverts maxValues)
    |>.seq (undoes_optional flag_inverts required)
    |>.seq (undoes_list fun s _ => text_inverts.reads s)

theorem TextDisplay.undoes (t : TextDisplay) : reader.Undoes t.members t :=
  (undoes_optional int32_inverts t.id).map mk |>.seq (undoes_field (text_inverts.reads t.content))

theorem Thumbnail.undoes (t : Thumbnail) : reader.Undoes t.members t :=
  (undoes_optional int32_inverts t.id).map mk
    |>.seq (undoes_field (MediaItem.inverts.reads t.media))
    |>.seq (undoes_optional text_inverts t.description)
    |>.seq (undoes_flag t.spoiler)

theorem MediaGallery.undoes (g : MediaGallery) : reader.Undoes g.members g :=
  (undoes_optional int32_inverts g.id).map mk
    |>.seq (undoes_field (reads_list fun i _ => GalleryItem.inverts.reads i))

theorem FileDisplay.undoes (f : FileDisplay) : reader.Undoes f.members f :=
  (undoes_optional int32_inverts f.id).map mk
    |>.seq (undoes_field (MediaItem.inverts.reads f.file))
    |>.seq (undoes_flag f.spoiler)
    |>.seq (undoes_optional text_inverts f.name)
    |>.seq (undoes_optional uint64_inverts f.size)

theorem Separator.undoes (s : Separator) : reader.Undoes s.members s :=
  (undoes_optional int32_inverts s.id).map mk
    |>.seq (undoes_optional flag_inverts s.divider)
    |>.seq (undoes_optional Spacing.inverts s.spacing)

/-! ## Layouts, over children that are read back -/

section Within

open Json

variable {γ : Type} (vs : List Json)

theorem ActionRow.within (row : ActionRow γ) : Within (row.members vs) ["id", "components"] :=
  (within_memberSome _ _ _).append (within_member _ _)

theorem TextSection.within (s : TextSection γ) (v : Json) :
    Within (s.members vs v) ["id", "components", "accessory"] :=
  (within_memberSome _ _ _).append (within_member _ _) |>.append (within_member _ _)

theorem Container.within (c : Container γ) :
    Within (c.members vs) ["id", "accent_color", "spoiler", "components"] :=
  (within_memberSome _ _ _).append (within_memberSome _ _ _) |>.append (within_memberSome _ _ _)
    |>.append (within_member _ _)

theorem Label.within (l : Label γ) (v : Json) :
    Within (l.members v) ["id", "label", "description", "component"] :=
  (within_memberSome _ _ _).append (within_member _ _) |>.append (within_memberSome _ _ _)
    |>.append (within_member _ _)

end Within

section Layouts

variable {γ : Type} {vs : List Json} {ys : List γ} {children : Decoder (List γ)}

theorem ActionRow.undoes (row : ActionRow γ) (hc : children.Reads (.arr vs) ys) :
    (reader children).Undoes (row.members vs) ⟨row.id, ys⟩ :=
  (undoes_optional int32_inverts row.id).map mk |>.seq (undoes_field hc)

theorem TextSection.undoes (s : TextSection γ) {child : Decoder γ} {v : Json} {y : γ}
    (hc : children.Reads (.arr vs) ys) (hv : child.Reads v y) :
    (reader children child).Undoes (s.members vs v) ⟨s.id, ys, y⟩ :=
  (undoes_optional int32_inverts s.id).map mk |>.seq (undoes_field hc) |>.seq (undoes_field hv)

theorem Container.undoes (c : Container γ) (hc : children.Reads (.arr vs) ys) :
    (reader children).Undoes (c.members vs) ⟨c.id, c.accentColor, c.spoiler, ys⟩ :=
  (undoes_optional int32_inverts c.id).map mk
    |>.seq (undoes_optional uint32_inverts c.accentColor)
    |>.seq (undoes_optional flag_inverts c.spoiler)
    |>.seq (undoes_field hc)

theorem Label.undoes (l : Label γ) {child : Decoder γ} {v : Json} {y : γ} (hv : child.Reads v y) :
    (reader child).Undoes (l.members v) ⟨l.id, l.label, l.description, y⟩ :=
  (undoes_optional int32_inverts l.id).map mk
    |>.seq (undoes_field (text_inverts.reads l.label))
    |>.seq (undoes_optional text_inverts l.description)
    |>.seq (undoes_field hv)

end Layouts

end InteractionKit
