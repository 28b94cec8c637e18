import InteractionKit.Id
/-
What a message shows besides text: pictures, galleries of them, and files.
-/
namespace InteractionKit

/-- a file or picture, with what was found at its address -/
structure MediaItem where
  url : String
  proxyUrl : Option String
  width : Option UInt32
  height : Option UInt32
  contentType : Option String
  attachmentId : Option (Id .attachment)
deriving DecidableEq

structure Thumbnail where
  id : Option Int32
  media : MediaItem
  description : Option String
  spoiler : Bool
deriving DecidableEq

structure GalleryItem where
  media : MediaItem
  description : Option String
  spoiler : Bool
deriving DecidableEq

structure MediaGallery where
  id : Option Int32
  items : List GalleryItem
deriving DecidableEq

structure FileDisplay where
  id : Option Int32
  file : MediaItem
  spoiler : Bool
  name : Option String
  size : Option UInt64
deriving DecidableEq

namespace MediaItem

def new (url : String) : MediaItem := ⟨url, none, none, none, none, none⟩

def reader : Reader MediaItem :=
  mk <$> .required "url" Decoder.text
    <*> .optional "proxy_url" Decoder.text
    <*> .optional "width" Decoder.uint32
    <*> .optional "height" Decoder.uint32
    <*> .optional "content_type" Decoder.text
    <*> .optional "attachment_id" Id.decode

def decode : Decoder MediaItem := reader.decode "UnfurledMediaItem"

def encode (m : MediaItem) : Json :=
  .obj (member "url" (.str m.url) ++ memberSome "proxy_url" .str m.proxyUrl
    ++ memberSome "width" Json.uint32 m.width ++ memberSome "height" Json.uint32 m.height
    ++ memberSome "content_type" .str m.contentType ++ memberSome "attachment_id" Id.encode m.attachmentId)

end MediaItem

namespace Thumbnail

def reader : Reader Thumbnail :=
  mk <$> .optional "id" Decoder.int32
    <*> .required "media" MediaItem.decode
    <*> .optional "description" Decoder.text
    <*> .defaulted "spoiler" false Decoder.flag

def members (t : Thumbnail) : Members :=
  memberSome "id" Json.int32 t.id ++ member "media" t.media.encode
    ++ memberSome "description" .str t.description ++ memberFlag "spoiler" t.spoiler

end Thumbnail

namespace GalleryItem

def reader : Reader GalleryItem :=
  mk <$> .required "media" MediaItem.decode
    <*> .optional "description" Decoder.text
    <*> .defaulted "spoiler" false Decoder.flag

def decode : Decoder GalleryItem := reader.decode "MediaGalleryItem"

def encode (g : GalleryItem) : Json :=
  .obj (member "media" g.media.encode ++ memberSome "description" .str g.description
    ++ memberFlag "spoiler" g.spoiler)

end GalleryItem

namespace MediaGallery

def reader : Reader MediaGallery :=
  mk <$> .optional "id" Decoder.int32 <*> .required "items" (Decoder.list GalleryItem.decode)

def members (g : MediaGallery) : Members :=
  memberSome "id" Json.int32 g.id ++ member "items" (.arr (g.items.map GalleryItem.encode))

end MediaGallery

namespace FileDisplay

def reader : Reader FileDisplay :=
  mk <$> .optional "id" Decoder.int32
    <*> .required "file" MediaItem.decode
    <*> .defaulted "spoiler" false Decoder.flag
    <*> .optional "name" Decoder.text
    <*> .optional "size" Decoder.uint64

def members (f : FileDisplay) : Members :=
  memberSome "id" Json.int32 f.id ++ member "file" f.file.encode ++ memberFlag "spoiler" f.spoiler
    ++ memberSome "name" .str f.name ++ memberSome "size" Json.uint64 f.size

end FileDisplay

end InteractionKit
