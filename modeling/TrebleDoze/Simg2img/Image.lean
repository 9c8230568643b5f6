import TrebleDoze.Simg2img.Main

/-!
# Images and their encodings

An image is a list of blocks. A sparse image covers it by pieces, each of which is one chunk: blocks
that are stored, zero blocks that a fill or a "don't care" chunk stands for, and checksums in between.

* `handleChunk_encode`: the program expands one chunk to the blocks of its piece;
* `main_encode`: it expands every encoding of an image to the image.
-/

namespace TrebleDoze.Simg2img

open Lib

/-! ### Images -/

/-- A block of an image. -/
abbrev Block := Vector UInt8 4096

/-- The block of zeros. -/
def Block.zero : Block := Vector.replicate 4096 0

/-- The bytes of an image. -/
def imageBytes (image : List Block) : List UInt8 := image.flatMap (·.toList)

/-- What one chunk covers. The size of a raw chunk has to fit in its header. -/
inductive Piece where
  | raw (blocks : List Block) (fits : sizeofChunkHeader + 4096 * blocks.length < 2 ^ 32)
  | fill (n : UInt32)
  | dontCare (n : UInt32)
  | crc32 (checksum : UInt32)

namespace Piece

/-- The blocks that a piece covers. -/
def blocks : Piece → List Block
  | raw blocks _ => blocks
  | fill n => List.replicate n.toNat Block.zero
  | dontCare n => List.replicate n.toNat Block.zero
  | crc32 _ => []

/-- The chunk header of a piece. -/
def header (reserved1 : UInt16) : Piece → ChunkHeader
  | raw blocks _ => ⟨chunkTypeRaw, reserved1, .ofNat blocks.length,
      .ofNat (sizeofChunkHeader + 4096 * blocks.length)⟩
  | fill n => ⟨chunkTypeFill, reserved1, n, 16⟩
  | dontCare n => ⟨chunkTypeDontCare, reserved1, n, 12⟩
  | crc32 _ => ⟨chunkTypeCrc32, reserved1, 0, 16⟩

/-- The data behind the chunk header. -/
def data : Piece → List UInt8
  | raw blocks _ => imageBytes blocks
  | fill _ => leBytes 4 0
  | dontCare _ => []
  | crc32 checksum => leBytes 4 checksum.toNat

end Piece

/-- A piece with what its header leaves open. -/
structure Segment where
  piece : Piece
  reserved1 : UInt16

/-- The bytes of a chunk. -/
def Segment.encode (segment : Segment) : List UInt8 :=
  (segment.piece.header segment.reserved1).toBytes ++ segment.piece.data

/-- The header of an image of `totalChunks` chunks. -/
def imageHeader (totalBlks imageChecksum totalChunks : UInt32) : SparseHeader where
  magic := sparseHeaderMagic
  majorVersion := 1
  minorVersion := 0
  fileHdrSz := 28
  chunkHdrSz := 12
  blkSz := 4096
  totalBlks := totalBlks
  totalChunks := totalChunks
  imageChecksum := imageChecksum

/-- The bytes of a sparse image. -/
def encodeImage (totalBlks imageChecksum : UInt32) (segments : List Segment) : List UInt8 :=
  (imageHeader totalBlks imageChecksum (.ofNat segments.length)).toBytes ++
    segments.flatMap Segment.encode

theorem length_imageBytes (image : List Block) : (imageBytes image).length = 4096 * image.length := by
  induction image with
  | nil => rfl
  | cons block image ih =>
    have hcons : imageBytes (block :: image) = block.toList ++ imageBytes image := rfl
    rw [hcons, List.length_append, ih, Vector.length_toList, List.length_cons]
    omega

theorem imageBytes_zero (n : ℕ) : imageBytes (List.replicate n Block.zero) = zeroBlocks 4096 n := by
  rw [imageBytes, List.flatMap_replicate, Block.zero, Vector.toList_replicate, zeroBlocks]

/-! ### The chunks of an encoding -/

/-- The program `p` returns and leaves the files `files`. -/
def Yields (p : Proc Unit) (os : Os) (files : Files) : Prop := ∃ os', p os = .ok () os' ∧ os'.files = files

section

variable {K : Kernel} {os : Os} {rest : List UInt8}

theorem Files.skip_append {files : Files} {data : List UInt8} {n : ℕ} (h : files.input = data ++ rest)
    (hn : data.length = n) : files.skip n = ⟨rest, files.output⟩ := by
  rw [Files.skip, h, List.drop_left' hn]

theorem Files.copy_append {files : Files} {data : List UInt8} {n : ℕ} (h : files.input = data ++ rest)
    (hn : data.length = n) : files.copy n = ⟨rest, files.output ++ data⟩ := by
  rw [Files.copy, Files.skip_append h hn, h, List.take_left' hn]
  rfl

/-- Headers are read and blocks are written in one call, and no copy fails; the calls of `nsendfile` may
move any part. -/
structure Kernel.Reliable (K : Kernel) : Prop where
  header : ∀ i, K.header i = .all
  read : ∀ i, K.read i ≠ .failed
  write : ∀ i, K.write i = .all

variable {hdr : SparseHeader} {reserved1 : UInt16} {chunk : ChunkHeader}

theorem raw_header {blocks : List Block} (fits : sizeofChunkHeader + 4096 * blocks.length < 2 ^ 32)
    (hchunk : chunk = (Piece.raw blocks fits).header reserved1) :
    chunk.totalSz.toNat = sizeofChunkHeader + (4096 * chunk.chunkSz).toNat ∧
      (4096 * chunk.chunkSz).toNat = 4096 * blocks.length := by
  have hfits : 12 + 4096 * blocks.length < 2 ^ 32 := fits
  have hchunkSz : chunk.chunkSz.toNat = blocks.length := by
    rw [hchunk]
    exact UInt32.toNat_ofNat_of_lt' (show blocks.length < 2 ^ 32 by omega)
  have htotalSz : chunk.totalSz.toNat = sizeofChunkHeader + 4096 * blocks.length := by
    rw [hchunk]
    exact UInt32.toNat_ofNat_of_lt' fits
  have hmul : (4096 * chunk.chunkSz).toNat = 4096 * blocks.length := by
    rw [toNat_blkSz_mul (by omega), hchunkSz]
  exact ⟨by rw [htotalSz, hmul], hmul⟩

theorem handleRaw_encode (hK : K.Reliable) (hblk : hdr.blkSz = 4096) {blocks : List Block}
    (fits : sizeofChunkHeader + 4096 * blocks.length < 2 ^ 32)
    (hinput : os.files.input = (Piece.raw blocks fits).data ++ rest) :
    Yields (handleRaw K hdr ((Piece.raw blocks fits).header reserved1)) os
      ⟨rest, os.files.output ++ imageBytes blocks⟩ := by
  obtain ⟨htotal, hmul⟩ := raw_header fits
    (rfl : (Piece.raw blocks fits).header reserved1 = _)
  generalize (Piece.raw blocks fits).header reserved1 = chunk at htotal hmul ⊢
  have hcount : 4096 * blocks.length ≤ os.files.input.length := by
    rw [hinput, List.length_append, Piece.data, length_imageBytes]
    omega
  obtain ⟨os', hcopy⟩ := nsendfile_of_moves hK.read hK.write (4096 * blocks.length) os hcount
  refine ⟨os', ?_, ?_⟩
  · rw [handleRaw, hblk, UInt32.mul_comm chunk.chunkSz, bind_of_ok (exitIf_of_not (not_not.2 htotal)), hmul,
      hcopy]
  · rw [(nsendfile_ok _ _ _ hcopy).2, Files.copy_append hinput (length_imageBytes blocks), Piece.data]

theorem handleFill_encode (hK : K.Reliable) (hblk : hdr.blkSz = 4096) (n : UInt32)
    (hinput : os.files.input = (Piece.fill n).data ++ rest) :
    Yields (handleFill K hdr ((Piece.fill n).header reserved1)) os
      ⟨rest, os.files.output ++ imageBytes (Piece.fill n).blocks⟩ := by
  have hsize : 4 ≤ os.files.input.length := by
    rw [hinput, List.length_append, Piece.data, length_leBytes]
    omega
  have htake : os.files.input.take 4 = leBytes 4 0 := by
    rw [hinput, Piece.data, List.take_left' (length_leBytes 4 0)]
  have hword : leNat (os.files.input.take 4) = 0 := by
    rw [htake, leNat_leBytes (by decide)]
  obtain ⟨os', hwrite⟩ : ∃ os', writeBlocks K (List.replicate hdr.blkSz.toNat
      (.ofNat (leNat (os.files.input.take 4)))) 8 n.toNat
      { os with files := os.files.skip 4, calls := os.calls + 1 } = .ok () os' :=
    writeBlocks_of_all hK.write
  have htotal : ((Piece.fill n).header reserved1).totalSz.toNat = 4 + sizeofChunkHeader := rfl
  have hrun : handleFill K hdr ((Piece.fill n).header reserved1) os = .ok () os' := by
    rw [handleFill, bind_of_ok (exitIf_of_not (not_not.2 htotal)),
      bind_of_ok (readStruct_of_all hK.header hsize), bind_of_ok (exitIf_of_not (not_not.2 hword))]
    exact hwrite
  refine ⟨os', hrun, ?_⟩
  rw [handleFill_ok hrun, Files.skip_append hinput (length_leBytes 4 0), Piece.blocks, imageBytes_zero,
    hblk]
  rfl

theorem handleDontCare_encode (hK : K.Reliable) (hblk : hdr.blkSz = 4096) (n : UInt32)
    (hinput : os.files.input = (Piece.dontCare n).data ++ rest) :
    Yields (handleDontCare K hdr ((Piece.dontCare n).header reserved1)) os
      ⟨rest, os.files.output ++ imageBytes (Piece.dontCare n).blocks⟩ := by
  obtain ⟨os', hwrite⟩ : ∃ os', writeBlocks K (List.replicate hdr.blkSz.toNat 0) 10 n.toNat os =
      .ok () os' := writeBlocks_of_all hK.write
  have htotal : ((Piece.dontCare n).header reserved1).totalSz.toNat = sizeofChunkHeader := rfl
  have hrun : handleDontCare K hdr ((Piece.dontCare n).header reserved1) os = .ok () os' := by
    rw [handleDontCare, bind_of_ok (exitIf_of_not (not_not.2 htotal))]
    exact hwrite
  refine ⟨os', hrun, ?_⟩
  rw [handleDontCare_ok hrun, Piece.blocks, imageBytes_zero, hblk, Files.append, hinput]
  rfl

theorem handleCrc32_encode (hK : K.Reliable) (checksum : UInt32)
    (hinput : os.files.input = (Piece.crc32 checksum).data ++ rest) :
    Yields (handleCrc32 K ((Piece.crc32 checksum).header reserved1)) os
      ⟨rest, os.files.output ++ imageBytes (Piece.crc32 checksum).blocks⟩ := by
  have hsize : 4 ≤ os.files.input.length := by
    rw [hinput, List.length_append, Piece.data, length_leBytes]
    omega
  have htotal : ((Piece.crc32 checksum).header reserved1).totalSz.toNat = 4 + sizeofChunkHeader := rfl
  have hrun : handleCrc32 K ((Piece.crc32 checksum).header reserved1) os =
      .ok () { os with files := os.files.skip 4, calls := os.calls + 1 } := by
    rw [handleCrc32, bind_of_ok (exitIf_of_not (not_not.2 htotal)),
      bind_of_ok (readStruct_of_all hK.header hsize)]
    rfl
  refine ⟨_, hrun, ?_⟩
  rw [handleCrc32_ok hrun, Files.skip_append hinput (length_leBytes 4 _)]
  simp [Piece.blocks, imageBytes]

/-- What is behind a chunk header is expanded to the blocks of the piece: by the kind of the piece,
which is the branch that the chunk type takes. -/
theorem handleType_encode (hK : K.Reliable) (hblk : hdr.blkSz = 4096) (piece : Piece)
    (hinput : os.files.input = piece.data ++ rest) :
    Yields (handleType K hdr (piece.header reserved1)) os
      ⟨rest, os.files.output ++ imageBytes piece.blocks⟩ := by
  cases piece with
  | raw blocks fits => exact handleRaw_encode hK hblk fits hinput
  | fill n => exact handleFill_encode hK hblk n hinput
  | dontCare n => exact handleDontCare_encode hK hblk n hinput
  | crc32 checksum => exact handleCrc32_encode hK checksum hinput

theorem handleChunk_encode (hK : K.Reliable) (hblk : hdr.blkSz = 4096) (segment : Segment)
    (hinput : os.files.input = segment.encode ++ rest) :
    Yields (handleChunk K hdr) os
      ⟨rest, os.files.output ++ imageBytes segment.piece.blocks⟩ := by
  obtain ⟨piece, reserved1⟩ := segment
  have hlen := (piece.header reserved1).length_toBytes
  have hsplit : os.files.input = (piece.header reserved1).toBytes ++ (piece.data ++ rest) := by
    rw [hinput, Segment.encode, List.append_assoc]
  have hsize : sizeofChunkHeader ≤ os.files.input.length := by
    rw [hsplit, List.length_append]
    omega
  have hheader : ChunkHeader.ofBytes (os.files.input.take sizeofChunkHeader) =
      piece.header reserved1 := by
    rw [hsplit, List.take_left' hlen, ChunkHeader.ofBytes_toBytes]
  unfold Yields
  rw [handleChunk, bind_of_ok (readStruct_of_all hK.header hsize), hheader,
    Files.skip_append hsplit hlen]
  exact handleType_encode hK hblk piece rfl

theorem chunkLoop_encode (hK : K.Reliable) (hblk : hdr.blkSz = 4096) (segments : List Segment)
    (hinput : os.files.input = segments.flatMap Segment.encode) :
    Yields (chunkLoop K hdr segments.length) os
      ⟨[], os.files.output ++ imageBytes (segments.flatMap (·.piece.blocks))⟩ := by
  induction segments generalizing os with
  | nil =>
    obtain ⟨⟨input, output⟩, calls, flag⟩ := os
    obtain rfl : input = [] := hinput
    exact ⟨_, rfl, by simp [imageBytes]⟩
  | cons segment segments ih =>
    obtain ⟨os₁, hchunk, hfiles⟩ := handleChunk_encode hK hblk segment
      (hinput.trans List.flatMap_cons)
    obtain ⟨os', hloop, hdone⟩ := ih (by rw [hfiles])
    refine ⟨os', ?_, ?_⟩
    · rw [List.length_cons, chunkLoop, bind_of_ok hchunk, hloop]
    · rw [hdone, hfiles, List.flatMap_cons, imageBytes, imageBytes, imageBytes, List.flatMap_append,
        List.append_assoc]

theorem checkHeader_imageHeader (totalBlks imageChecksum totalChunks : UInt32) :
    checkHeader (imageHeader totalBlks imageChecksum totalChunks) os = .ok () os := rfl

/-- Every encoding of an image is expanded to the image: `image` is covered by the pieces of
`segments`, each of which is one chunk. -/
theorem main_encode (hK : K.Reliable) (image : List Block) (segments : List Segment)
    (hcover : segments.flatMap (·.piece.blocks) = image) (hcount : segments.length < 2 ^ 32)
    (totalBlks imageChecksum : UInt32) :
    ∃ os, main K (Os.initial (encodeImage totalBlks imageChecksum segments)) = .ok 0 os ∧
      os.files.output = imageBytes image := by
  have hlen := (imageHeader totalBlks imageChecksum (.ofNat segments.length)).length_toBytes
  have hsize : sizeofSparseHeader ≤ (encodeImage totalBlks imageChecksum segments).length := by
    rw [encodeImage, List.length_append]
    omega
  have hheader : SparseHeader.ofBytes
      ((encodeImage totalBlks imageChecksum segments).take sizeofSparseHeader) =
        imageHeader totalBlks imageChecksum (.ofNat segments.length) := by
    rw [encodeImage, List.take_left' hlen, SparseHeader.ofBytes_toBytes]
  have hchunks : (imageHeader totalBlks imageChecksum (.ofNat segments.length)).totalChunks.toNat =
      segments.length := UInt32.toNat_ofNat_of_lt' hcount
  obtain ⟨os, hloop, hfiles⟩ : Yields (chunkLoop K
      (imageHeader totalBlks imageChecksum (.ofNat segments.length)) segments.length)
      ⟨⟨segments.flatMap Segment.encode, []⟩, 1, false⟩
      ⟨[], imageBytes (segments.flatMap (·.piece.blocks))⟩ := chunkLoop_encode hK rfl segments rfl
  have hread : readStruct K sizeofSparseHeader 1
      (Os.initial (encodeImage totalBlks imageChecksum segments)) =
        .ok ((encodeImage totalBlks imageChecksum segments).take sizeofSparseHeader)
          ⟨⟨segments.flatMap Segment.encode, []⟩, 1, false⟩ := by
    rw [readStruct_of_all hK.header hsize, Files.skip_append rfl hlen]
    rfl
  refine ⟨os, ?_, ?_⟩
  · rw [main, bind_of_ok hread, hheader, bind_of_ok (checkHeader_imageHeader _ _ _), hchunks,
      bind_of_ok hloop]
    rfl
  · rw [hfiles, hcover]

/-- An image of three blocks in four chunks, one of each kind. -/
def fourChunks : List Segment :=
  [⟨.raw [Vector.replicate 4096 7] (by decide), 0⟩, ⟨.crc32 5, 0⟩, ⟨.fill 1, 0⟩, ⟨.dontCare 1, 0⟩]

/-- The four chunks on a kernel whose `splice` fails and whose `read` stops after at most 1000 bytes. -/
theorem main_encode_fourChunks : ∃ os,
    main ⟨fun _ => .all, fun _ => .failed, fun _ => .upTo 999, fun _ => .all⟩
      (Os.initial (encodeImage 3 0 fourChunks)) = .ok 0 os ∧
    os.files.output = imageBytes [Vector.replicate 4096 7, Block.zero, Block.zero] :=
  main_encode ⟨fun _ => rfl, fun _ => Answer.noConfusion, fun _ => rfl⟩ _ fourChunks rfl (by decide) 3 0

end

end TrebleDoze.Simg2img
