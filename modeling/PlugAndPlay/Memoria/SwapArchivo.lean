import PlugAndPlay.Memoria.SchedulerRangos

/-!
# The swap file

What the block transfers of a suspension and of a resumption do to the bytes. The blocks of a
segment are consecutive, so a segment of `limite` bytes is `limite` consecutive bytes of the file,
and the padding of its last block lies behind them. A suspension writes only behind the counter
`next_block`; that alone keeps apart what different suspensions stored.
-/

open PlugAndPlay.Library

namespace PlugAndPlay.Memoria

/-! ## Blocks of a segment -/

/-- The sum that rounds the number of blocks up does not wrap. -/
def SinDesborde (limite bs : UInt32) : Prop := limite.toNat + bs.toNat ≤ 2 ^ 32

theorem sinDesborde_cero (bs : UInt32) : SinDesborde 0 bs := by
  have := bs.toNat_lt
  unfold SinDesborde
  rw [UInt32.toNat_zero]
  omega

instance (limite bs : UInt32) : Decidable (SinDesborde limite bs) :=
  inferInstanceAs (Decidable (_ ≤ _))

section Bloques

variable {limite bs : UInt32} (hbs : 0 < bs.toNat) (hsin : SinDesborde limite bs)
include hbs hsin

/-- A block belongs to the segment when the segment has bytes in it. -/
theorem lt_cantidadBloques {b : ℕ} :
    b < (cantidadBloques limite bs).toNat ↔ b * bs.toNat < limite.toNat := by
  have hlimite := limite.toNat_lt
  unfold SinDesborde at hsin
  have hsuma : (limite + bs - 1).toNat = limite.toNat + bs.toNat - 1 := by
    have huno : (1 : UInt32).toNat = 1 := rfl
    rw [UInt32.toNat_sub, UInt32.toNat_add, huno]
    omega
  calc b < (cantidadBloques limite bs).toNat
      ↔ b + 1 ≤ (limite.toNat + bs.toNat - 1) / bs.toNat := by
        rw [cantidadBloques, UInt32.toNat_div, hsuma, Nat.succ_le_iff]
    _ ↔ (b + 1) * bs.toNat ≤ limite.toNat + bs.toNat - 1 := Nat.le_div_iff_mul_le hbs
    _ ↔ b * bs.toNat < limite.toNat := by
        rw [Nat.succ_mul]
        omega

theorem toNat_mul_bloque {b : UInt32} (hb : b.toNat < (cantidadBloques limite bs).toNat) :
    (b * bs).toNat = b.toNat * bs.toNat := by
  have hmenor := (lt_cantidadBloques hbs hsin).mp hb
  have hlimite := limite.toNat_lt
  rw [UInt32.toNat_mul]
  exact Nat.mod_eq_of_lt (by omega)

/-- All blocks are full but the last, which holds what is left. -/
theorem toNat_chunkDeBloque {b : UInt32} (hb : b.toNat < (cantidadBloques limite bs).toNat) :
    (chunkDeBloque limite bs b).toNat = min bs.toNat (limite.toNat - b.toNat * bs.toNat) := by
  have hmenor := (lt_cantidadBloques hbs hsin).mp hb
  have hmul := toNat_mul_bloque hbs hsin hb
  have hsucc : (b.toNat + 1) * bs.toNat = b.toNat * bs.toNat + bs.toNat := Nat.succ_mul _ _
  have hsiguiente := lt_cantidadBloques hbs hsin (b := b.toNat + 1)
  have huno : (1 : UInt32).toNat = 1 := rfl
  have hultimo : (cantidadBloques limite bs - 1).toNat = (cantidadBloques limite bs).toNat - 1 := by
    rw [toNat_sub_of_le (by rw [huno]; omega), huno]
  unfold chunkDeBloque
  split
  · rename_i heq
    have hfin : b.toNat = (cantidadBloques limite bs).toNat - 1 := by rw [heq, hultimo]
    rw [toNat_sub_of_le (by omega), hmul]
    omega
  · rename_i hne
    have hno : b.toNat ≠ (cantidadBloques limite bs).toNat - 1 := by
      intro hfin
      apply hne
      apply UInt32.toNat_inj.mp
      rw [hultimo, hfin]
    omega

end Bloques

/-! ## One block -/

theorem archivo_siguienteCorte (swap : Swap) : swap.siguienteCorte.2.archivo = swap.archivo := by
  unfold Swap.siguienteCorte
  split <;> rfl

/-- The block size is fixed when the swap registers. -/
theorem Swap.fijo_socket {swap swap' : Swap} (h : swap'.fijo = swap.fijo) :
    swap'.socket = swap.socket :=
  congrArg Prod.fst h

theorem Swap.fijo_blockSize {swap swap' : Swap} (h : swap'.fijo = swap.fijo) :
    swap'.blockSize = swap.blockSize :=
  congrArg (fun f ↦ f.2.1) h

theorem Swap.fijo_nextBlock {swap swap' : Swap} (h : swap'.fijo = swap.fijo) :
    swap'.nextBlock = swap.nextBlock :=
  congrArg (fun f ↦ f.2.2.1) h

/-- No file has the last block number. -/
theorem isValidBlock_lt {swap : Swap} {bloque : UInt32} (h : swap.isValidBlock bloque = true) :
    bloque.toNat + 1 < 2 ^ 32 := by
  have hmenor : bloque.toNat < (swap.swapFileSize / swap.blockSize).toNat :=
    UInt32.lt_iff_toNat_lt.mp (by simpa [Swap.isValidBlock] using h)
  have htope := (swap.swapFileSize / swap.blockSize).toNat_lt
  omega

/-- A block that was stored is not the last block number, and lands at its place. -/
theorem swapEscribirBloque_eq_true {swap swap' : Swap} {bloque : UInt32} {datos : List UInt8}
    (h : swapEscribirBloque swap bloque datos = (true, swap')) :
    bloque.toNat + 1 < 2 ^ 32 ∧
      swap'.archivo =
        ByteMemory.overlay swap.archivo (bloque.toNat * swap.blockSize.toNat) datos := by
  obtain ⟨corte, swap₁, hcorte⟩ : ∃ corte swap₁, swap.siguienteCorte = (corte, swap₁) := ⟨_, _, rfl⟩
  have hfijo := fijo_siguienteCorte swap
  have harchivo := archivo_siguienteCorte swap
  rw [hcorte] at hfijo harchivo
  unfold swapEscribirBloque at h
  rw [hcorte] at h
  split at h
  · cases h
  cases corte with
  | true => cases h
  | false =>
    by_cases hvalido : swap₁.isValidBlock bloque = true
    · simp only [hvalido, if_true] at h
      obtain rfl := (Prod.mk.inj h).2
      refine ⟨isValidBlock_lt hvalido, ?_⟩
      rw [harchivo, Swap.fijo_blockSize hfijo]
    · simp [hvalido] at h

/-- A transfer that fails leaves the file alone. -/
theorem swapEscribirBloque_eq_false {swap swap' : Swap} {bloque : UInt32} {datos : List UInt8}
    (h : swapEscribirBloque swap bloque datos = (false, swap')) : swap'.archivo = swap.archivo := by
  obtain ⟨corte, swap₁, hcorte⟩ : ∃ corte swap₁, swap.siguienteCorte = (corte, swap₁) := ⟨_, _, rfl⟩
  have harchivo := archivo_siguienteCorte swap
  rw [hcorte] at harchivo
  unfold swapEscribirBloque at h
  rw [hcorte] at h
  split at h
  · obtain rfl := (Prod.mk.inj h).2
    rfl
  cases corte with
  | true =>
    obtain rfl := (Prod.mk.inj h).2
    exact harchivo
  | false =>
    by_cases hvalido : swap₁.isValidBlock bloque = true
    · simp [hvalido] at h
    · simp only [hvalido, if_false, Bool.false_eq_true] at h
      obtain rfl := (Prod.mk.inj h).2
      exact harchivo

/-- Reading changes no byte, and reads a whole block. -/
theorem swapLeerBloque_archivo {swap swap' : Swap} {bloque : UInt32} {datos : Option (List UInt8)}
    (h : swapLeerBloque swap bloque = (datos, swap')) :
    swap'.archivo = swap.archivo ∧ ∀ leidos, datos = some leidos →
      leidos = ByteMemory.slice swap.archivo (bloque.toNat * swap.blockSize.toNat)
        swap.blockSize.toNat := by
  obtain ⟨corte, swap₁, hcorte⟩ : ∃ corte swap₁, swap.siguienteCorte = (corte, swap₁) := ⟨_, _, rfl⟩
  have hfijo := fijo_siguienteCorte swap
  have harchivo := archivo_siguienteCorte swap
  rw [hcorte] at hfijo harchivo
  unfold swapLeerBloque at h
  rw [hcorte] at h
  split at h
  · obtain ⟨rfl, rfl⟩ := Prod.mk.inj h
    exact ⟨rfl, nofun⟩
  cases corte with
  | true =>
    obtain ⟨rfl, rfl⟩ := Prod.mk.inj h
    exact ⟨harchivo, nofun⟩
  | false =>
    by_cases hvalido : swap₁.isValidBlock bloque = true
    · simp only [hvalido, if_true] at h
      obtain ⟨rfl, rfl⟩ := Prod.mk.inj h
      refine ⟨harchivo, fun leidos hleidos ↦ ?_⟩
      rw [← Option.some.inj hleidos, harchivo, Swap.fijo_blockSize hfijo]
    · simp only [hvalido, if_false, Bool.false_eq_true] at h
      obtain ⟨rfl, rfl⟩ := Prod.mk.inj h
      exact ⟨harchivo, nofun⟩

/-! ## What a suspension writes -/

/-- The swap after some suspensions: the counter only grew, and nothing below it was written. -/
structure SwapCrece (swap swap' : Swap) : Prop where
  socket : swap'.socket = swap.socket
  blockSize : swap'.blockSize = swap.blockSize
  nextBlock : swap.nextBlock.toNat ≤ swap'.nextBlock.toNat
  archivo : ∀ offset < swap.nextBlock.toNat * swap.blockSize.toNat,
    swap'.archivo offset = swap.archivo offset

theorem SwapCrece.refl (swap : Swap) : SwapCrece swap swap := ⟨rfl, rfl, le_rfl, fun _ _ ↦ rfl⟩

theorem SwapCrece.trans {swap swap₁ swap₂ : Swap} (h : SwapCrece swap swap₁)
    (h' : SwapCrece swap₁ swap₂) : SwapCrece swap swap₂ where
  socket := h'.socket.trans h.socket
  blockSize := h'.blockSize.trans h.blockSize
  nextBlock := h.nextBlock.trans h'.nextBlock
  archivo offset hoffset := by
    have hmayor : offset < swap₁.nextBlock.toNat * swap₁.blockSize.toNat := by
      rw [h.blockSize]
      exact hoffset.trans_le (Nat.mul_le_mul_right _ h.nextBlock)
    rw [h'.archivo offset hmayor, h.archivo offset hoffset]

/-- The bytes of a segment are in the file, below the counter. -/
structure Guardado (swap : Swap) (seg : Segmento) (datos : List UInt8) : Prop where
  bloques : seg.swapBloqueInicio.toNat + (cantidadBloques seg.limite swap.blockSize).toNat ≤
    swap.nextBlock.toNat
  bytes : ByteMemory.slice swap.archivo (seg.swapBloqueInicio.toNat * swap.blockSize.toNat)
    seg.limite.toNat = datos

/-- Later suspensions do not touch what is stored. -/
theorem Guardado.crece {swap swap' : Swap} {seg : Segmento} {datos : List UInt8}
    (h : Guardado swap seg datos) (hbs : 0 < swap.blockSize.toNat)
    (hsin : SinDesborde seg.limite swap.blockSize) (hcrece : SwapCrece swap swap') :
    Guardado swap' seg datos := by
  have htope := lt_cantidadBloques hbs hsin (b := (cantidadBloques seg.limite swap.blockSize).toNat)
  have hbloques := h.bloques
  refine ⟨?_, ?_⟩
  · rw [hcrece.blockSize]
    exact hbloques.trans hcrece.nextBlock
  · rw [hcrece.blockSize, ← h.bytes]
    apply ByteMemory.slice_congr
    intro offset _ hoffset
    apply hcrece.archivo
    calc offset < seg.swapBloqueInicio.toNat * swap.blockSize.toNat + seg.limite.toNat := hoffset
      _ ≤ (seg.swapBloqueInicio.toNat + (cantidadBloques seg.limite swap.blockSize).toNat) *
          swap.blockSize.toNat := by
        rw [Nat.add_mul]
        omega
      _ ≤ swap.nextBlock.toNat * swap.blockSize.toNat := Nat.mul_le_mul_right _ hbloques

/-- The loop over the blocks writes from its first block on, whatever fails, and it does not run
past the last block number. -/
theorem volcarBloques_archivo (seg : Segmento) (restantes : ℕ) {b : UInt32} {m m' : KernelMemory}
    {bien : Bool} (hb : seg.swapBloqueInicio.toNat + b.toNat < 2 ^ 32)
    (h : volcarBloques seg restantes b m = (bien, m')) :
    (bien = true → seg.swapBloqueInicio.toNat + b.toNat + restantes < 2 ^ 32) ∧
      ∀ offset < (seg.swapBloqueInicio.toNat + b.toNat) * m.swap.blockSize.toNat,
        m'.swap.archivo offset = m.swap.archivo offset := by
  induction restantes generalizing b m with
  | zero =>
    obtain ⟨_, rfl⟩ := Prod.mk.inj h
    exact ⟨fun _ ↦ hb, fun _ _ ↦ rfl⟩
  | succ restantes ih =>
    have hbloque : (seg.swapBloqueInicio + b).toNat = seg.swapBloqueInicio.toNat + b.toNat :=
      toNat_add_of_lt hb
    simp only [volcarBloques] at h
    split at h
    · obtain ⟨rfl, rfl⟩ := Prod.mk.inj h
      exact ⟨by rintro ⟨⟩, fun _ _ ↦ rfl⟩
    · rename_i datos ram hleer
      obtain ⟨escrito, swap₁, hescribir⟩ : ∃ escrito swap₁, swapEscribirBloque m.swap
          (seg.swapBloqueInicio + b)
          (datos ++ List.replicate (m.swap.blockSize.toNat - datos.length) 0) =
            (escrito, swap₁) := ⟨_, _, rfl⟩
      rw [hescribir] at h
      cases escrito with
      | false =>
        obtain ⟨rfl, rfl⟩ := Prod.mk.inj h
        refine ⟨by rintro ⟨⟩, fun _ _ ↦ ?_⟩
        rw [swapEscribirBloque_eq_false hescribir]
      | true =>
        obtain ⟨hvalido, harchivo⟩ := swapEscribirBloque_eq_true hescribir
        have hfijo := fijo_swapEscribirBloque m.swap (seg.swapBloqueInicio + b)
          (datos ++ List.replicate (m.swap.blockSize.toNat - datos.length) 0)
        rw [hescribir] at hfijo
        have huno : (1 : UInt32).toNat = 1 := rfl
        have hsucc : (b + 1).toNat = b.toNat + 1 := toNat_add_of_lt (by rw [huno]; omega)
        obtain ⟨htope, hmarco⟩ := ih (by omega) h
        refine ⟨fun hbien ↦ by have := htope hbien; omega, fun offset hoffset ↦ ?_⟩
        have hsiguiente : (seg.swapBloqueInicio.toNat + (b + 1).toNat) * m.swap.blockSize.toNat =
            (seg.swapBloqueInicio.toNat + b.toNat) * m.swap.blockSize.toNat +
              m.swap.blockSize.toNat := by
          rw [hsucc, ← Nat.add_assoc, Nat.succ_mul]
        rw [hmarco offset (by rw [Swap.fijo_blockSize hfijo, hsiguiente]; omega)]
        show swap₁.archivo offset = _
        rw [harchivo, hbloque, ByteMemory.overlay_outside (Or.inl hoffset)]

/-- From block `b` on, the loop copies the rest of the segment to the file. -/
theorem volcarBloques_bytes {seg : Segmento} (restantes : ℕ) {b : UInt32} {m m' : KernelMemory}
    (hsana : m.ram.Sana) (hbs : 0 < m.swap.blockSize.toNat)
    (hsin : SinDesborde seg.limite m.swap.blockSize)
    (hdentro : seg.base.toNat + seg.limite.toNat ≤ m.ram.total)
    (hb : b.toNat + restantes = (cantidadBloques seg.limite m.swap.blockSize).toNat)
    (hinicio : seg.swapBloqueInicio.toNat + b.toNat < 2 ^ 32)
    (h : volcarBloques seg restantes b m = (true, m')) :
    m'.ram = m.ram ∧
      ByteMemory.slice m'.swap.archivo
          ((seg.swapBloqueInicio.toNat + b.toNat) * m.swap.blockSize.toNat)
          (seg.limite.toNat - b.toNat * m.swap.blockSize.toNat) =
        ByteMemory.slice (plano m.ram.tabla) (seg.base.toNat + b.toNat * m.swap.blockSize.toNat)
          (seg.limite.toNat - b.toNat * m.swap.blockSize.toNat) := by
  induction restantes generalizing b m with
  | zero =>
    obtain ⟨_, rfl⟩ := Prod.mk.inj h
    -- no block is left, so no byte is
    have hfin := lt_cantidadBloques hbs hsin (b := b.toNat)
    have hnada : seg.limite.toNat - b.toNat * m.swap.blockSize.toNat = 0 := by omega
    rw [hnada]
    exact ⟨rfl, rfl⟩
  | succ restantes ih =>
    have htotal := m.ram.total_lt
    have hbmenor : b.toNat < (cantidadBloques seg.limite m.swap.blockSize).toNat := by omega
    have hquedan := (lt_cantidadBloques hbs hsin).mp hbmenor
    have hmul := toNat_mul_bloque hbs hsin hbmenor
    have hchunk := toNat_chunkDeBloque hbs hsin hbmenor
    have hbloque : (seg.swapBloqueInicio + b).toNat = seg.swapBloqueInicio.toNat + b.toNat :=
      toNat_add_of_lt hinicio
    have hdir : (seg.base + b * m.swap.blockSize).toNat =
        seg.base.toNat + b.toNat * m.swap.blockSize.toNat := by
      rw [toNat_add_of_lt (by omega), hmul]
    have hfinChunk : (seg.base + b * m.swap.blockSize).toNat +
        (chunkDeBloque seg.limite m.swap.blockSize b).toNat ≤ m.ram.total := by
      rw [hdir, hchunk]
      omega
    obtain ⟨datos, hdatos⟩ : ∃ datos, datos = ByteMemory.slice (plano m.ram.tabla)
        (seg.base.toNat + b.toNat * m.swap.blockSize.toNat)
        (chunkDeBloque seg.limite m.swap.blockSize b).toNat := ⟨_, rfl⟩
    have hlargo : datos.length = (chunkDeBloque seg.limite m.swap.blockSize b).toNat := by
      rw [hdatos, ByteMemory.length_slice]
    have hleer := memoryIoLeer_plano hsana hfinChunk
    rw [hdir, ← hdatos] at hleer
    simp only [volcarBloques, hleer] at h
    obtain ⟨escrito, swap₁, hescribir⟩ : ∃ escrito swap₁, swapEscribirBloque m.swap
        (seg.swapBloqueInicio + b)
        (datos ++ List.replicate (m.swap.blockSize.toNat - datos.length) 0) =
          (escrito, swap₁) := ⟨_, _, rfl⟩
    rw [hescribir] at h
    cases escrito with
    | false => cases h
    | true =>
      obtain ⟨hvalido, harchivo⟩ := swapEscribirBloque_eq_true hescribir
      have hfijo := fijo_swapEscribirBloque m.swap (seg.swapBloqueInicio + b)
        (datos ++ List.replicate (m.swap.blockSize.toNat - datos.length) 0)
      rw [hescribir] at hfijo
      have hbsMismo : swap₁.blockSize = m.swap.blockSize := Swap.fijo_blockSize hfijo
      have huno : (1 : UInt32).toNat = 1 := rfl
      have hsucc : (b + 1).toNat = b.toNat + 1 := toNat_add_of_lt (by rw [huno]; omega)
      have hsiguiente : seg.swapBloqueInicio.toNat + (b + 1).toNat < 2 ^ 32 := by omega
      have hmarco := (volcarBloques_archivo seg restantes hsiguiente h).2
      obtain ⟨hram, hresto⟩ := ih (m := { m with ram := m.ram, swap := swap₁ }) hsana
        (by rw [hbsMismo]; exact hbs) (by rw [hbsMismo]; exact hsin) hdentro
        (by rw [hbsMismo]; omega) hsiguiente h
      simp only [hbsMismo, hsucc, ← Nat.add_assoc, Nat.succ_mul] at hmarco hresto
      refine ⟨hram, ?_⟩
      have hprimero : ByteMemory.slice m'.swap.archivo
          ((seg.swapBloqueInicio.toNat + b.toNat) * m.swap.blockSize.toNat) datos.length = datos := by
        have hantes : ByteMemory.slice m'.swap.archivo
            ((seg.swapBloqueInicio.toNat + b.toNat) * m.swap.blockSize.toNat) datos.length =
            ByteMemory.slice swap₁.archivo
              ((seg.swapBloqueInicio.toNat + b.toNat) * m.swap.blockSize.toNat) datos.length :=
          ByteMemory.slice_congr fun offset _ hoffset ↦ hmarco offset (by omega)
        rw [hantes, harchivo, hbloque]
        exact ByteMemory.slice_overlay_append
      have hreparto : seg.limite.toNat - b.toNat * m.swap.blockSize.toNat =
          datos.length + (seg.limite.toNat - (b.toNat * m.swap.blockSize.toNat +
            m.swap.blockSize.toNat)) := by
        omega
      rw [hreparto, ByteMemory.slice_add, ByteMemory.slice_add, hprimero, hlargo, ← hdatos]
      congr 1
      by_cases hultimo : seg.limite.toNat ≤
          b.toNat * m.swap.blockSize.toNat + m.swap.blockSize.toNat
      · rw [Nat.sub_eq_zero_of_le hultimo]
        rfl
      · have hlleno : (chunkDeBloque seg.limite m.swap.blockSize b).toNat =
            m.swap.blockSize.toNat := by
          omega
        rw [hlleno]
        exact hresto

/-- A segment that was copied is in the file byte by byte. -/
theorem volcarSegmentoASwap_bytes {seg : Segmento} {m m' : KernelMemory}
    (h : volcarSegmentoASwap seg m = (true, m')) (hsana : m.ram.Sana)
    (hbs : 0 < m.swap.blockSize.toNat) (hsin : SinDesborde seg.limite m.swap.blockSize)
    (hdentro : seg.base.toNat + seg.limite.toNat ≤ m.ram.total) :
    m'.ram = m.ram ∧
      ByteMemory.slice m'.swap.archivo
          (seg.swapBloqueInicio.toNat * m.swap.blockSize.toNat) seg.limite.toNat =
        ByteMemory.slice (plano m.ram.tabla) seg.base.toNat seg.limite.toNat := by
  have hcero : (0 : UInt32).toNat = 0 := rfl
  have hcomienzo : seg.swapBloqueInicio.toNat + (0 : UInt32).toNat < 2 ^ 32 :=
    seg.swapBloqueInicio.toNat_lt
  have hbytes := volcarBloques_bytes _ hsana hbs hsin hdentro (by rw [hcero, Nat.zero_add])
    hcomienzo h
  simpa only [hcero, Nat.add_zero, Nat.zero_mul, Nat.sub_zero] using hbytes

theorem swapReservarBloques_eq {swap swap' : Swap} {nBlocks inicio : UInt32}
    (h : swapReservarBloques swap nBlocks = (inicio, swap')) (hinicio : inicio ≠ sinBase) :
    inicio = swap.nextBlock ∧ swap' = { swap with nextBlock := swap.nextBlock + nBlocks } := by
  unfold swapReservarBloques at h
  split at h
  · exact absurd (Prod.mk.inj h).1.symm hinicio
  · obtain ⟨rfl, rfl⟩ := Prod.mk.inj h
    exact ⟨rfl, rfl⟩

/-- One segment went to the file: its blocks are the ones the counter moved past. -/
theorem volcarSegmentoASwap_crece (seg : Segmento) {m m' : KernelMemory} {swap : Swap}
    (hreserva : swapReservarBloques m.swap (cantidadBloques seg.limite m.swap.blockSize) =
      (seg.swapBloqueInicio, swap)) (hinicio : seg.swapBloqueInicio ≠ sinBase)
    (h : volcarSegmentoASwap seg { m with swap := swap } = (true, m')) :
    SwapCrece m.swap m'.swap ∧ m'.swap.nextBlock.toNat =
      seg.swapBloqueInicio.toNat + (cantidadBloques seg.limite m.swap.blockSize).toNat := by
  obtain ⟨hprimero, rfl⟩ := swapReservarBloques_eq hreserva hinicio
  have hdisp := volcarBloques_soloDispositivos seg
    (cantidadBloques seg.limite m.swap.blockSize).toNat 0
    { m with swap :=
        { m.swap with nextBlock := m.swap.nextBlock + cantidadBloques seg.limite m.swap.blockSize } }
  have hcero : (0 : UInt32).toNat = 0 := rfl
  have hcomienzo : seg.swapBloqueInicio.toNat + (0 : UInt32).toNat < 2 ^ 32 := by
    have := seg.swapBloqueInicio.toNat_lt
    omega
  unfold volcarSegmentoASwap at h
  obtain ⟨htope, hmarco⟩ := volcarBloques_archivo _ _ hcomienzo h
  rw [show volcarBloques _ _ _ _ = _ from h] at hdisp
  have htope := htope rfl
  rw [hcero, Nat.add_zero, hprimero] at htope
  have hbs : m'.swap.blockSize = m.swap.blockSize := (Swap.fijo_blockSize hdisp.swap).trans rfl
  have hnext : m'.swap.nextBlock.toNat =
      m.swap.nextBlock.toNat + (cantidadBloques seg.limite m.swap.blockSize).toNat := by
    have hnextBlock : m'.swap.nextBlock =
        m.swap.nextBlock + cantidadBloques seg.limite m.swap.blockSize :=
      (Swap.fijo_nextBlock hdisp.swap).trans rfl
    rw [hnextBlock]
    exact toNat_add_of_lt htope
  refine ⟨⟨(Swap.fijo_socket hdisp.swap).trans rfl, hbs, by omega, fun offset hoffset ↦ ?_⟩, ?_⟩
  · apply hmarco
    rw [hcero, Nat.add_zero, hprimero]
    exact hoffset
  · rw [hprimero]
    exact hnext

/-- A suspension in which no transfer fails writes only behind the counter, also when it runs out of
blocks. -/
theorem suspenderSegmentos_crece {segmentos segmentos' : List Segmento} {m m' : KernelMemory}
    {fin : FinSuspension} (h : suspenderSegmentos segmentos m = (fin, segmentos', m'))
    (hfin : fin ≠ .fallo) : SwapCrece m.swap m'.swap := by
  induction segmentos generalizing m fin segmentos' m' with
  | nil =>
    obtain ⟨_, rfl⟩ := Prod.mk.inj (Prod.mk.inj h).2
    exact SwapCrece.refl _
  | cons seg resto ih =>
    rcases suspenderSegmentos_cons_cases h with
      ⟨_, _, rfl⟩ | ⟨inicio, swap, hreserva, hinicio, ⟨rfl, _, _⟩ | ⟨m₁, _, hvolcar, hrec, _⟩⟩
    · exact SwapCrece.refl _
    · exact absurd rfl hfin
    · have hcrece := (volcarSegmentoASwap_crece { seg with swapBloqueInicio := inicio }
        hreserva hinicio hvolcar).1
      have hcola := ih hrec hfin
      exact hcrece.trans hcola

/-- What a suspension leaves of one segment: the segment as it was, or its bytes in the file. -/
structure Conserva (memoria : ℕ → UInt8) (swap : Swap) (seg seg' : Segmento) : Prop where
  id : seg'.id = seg.id
  limite : seg'.limite = seg.limite
  donde : seg' = seg ∨ ¬ seg'.Residente ∧
    Guardado swap seg' (ByteMemory.slice memoria seg.base.toNat seg.limite.toNat)

theorem suspenderSegmentos_conserva {segmentos segmentos' : List Segmento} {m m' : KernelMemory}
    {fin : FinSuspension} (h : suspenderSegmentos segmentos m = (fin, segmentos', m'))
    (hfin : fin ≠ .fallo) (hsana : m.ram.Sana) (hbs : 0 < m.swap.blockSize.toNat)
    (hsin : ∀ seg ∈ segmentos, SinDesborde seg.limite m.swap.blockSize)
    (hdentro : ∀ seg ∈ segmentos, seg.base.toNat + seg.limite.toNat ≤ m.ram.total) :
    m'.ram = m.ram ∧
      List.Forall₂ (Conserva (plano m.ram.tabla) m'.swap) segmentos segmentos' := by
  induction segmentos generalizing m fin segmentos' m' with
  | nil =>
    obtain ⟨rfl, rfl⟩ := Prod.mk.inj (Prod.mk.inj h).2
    exact ⟨rfl, .nil⟩
  | cons seg resto ih =>
    rcases suspenderSegmentos_cons_cases h with
      ⟨_, rfl, rfl⟩ | ⟨inicio, swap, hreserva, hinicio, ⟨rfl, _, _⟩ | ⟨m₁, resto', hvolcar, hrec, rfl⟩⟩
    · exact ⟨rfl, List.forall₂_same.mpr fun s _ ↦ ⟨rfl, rfl, Or.inl rfl⟩⟩
    · exact absurd rfl hfin
    · obtain ⟨hsinSeg, hsinResto⟩ := List.forall_mem_cons.mp hsin
      obtain ⟨hseg, hresto⟩ := List.forall_mem_cons.mp hdentro
      obtain ⟨hcrece, hnext⟩ := volcarSegmentoASwap_crece
        { seg with swapBloqueInicio := inicio } hreserva hinicio hvolcar
      obtain ⟨_, rfl⟩ := swapReservarBloques_eq hreserva hinicio
      have hbsMismo : m₁.swap.blockSize = m.swap.blockSize := hcrece.blockSize
      obtain ⟨hram, hbytes⟩ := volcarSegmentoASwap_bytes hvolcar hsana hbs hsinSeg hseg
      have hguardado : Guardado m₁.swap { seg with base := sinBase, swapBloqueInicio := inicio }
          (ByteMemory.slice (plano m.ram.tabla) seg.base.toNat seg.limite.toNat) := by
        refine ⟨?_, ?_⟩
        · rw [hbsMismo, hnext]
        · rw [hbsMismo]
          exact hbytes
      have hbsCola : 0 < m₁.swap.blockSize.toNat := by
        rw [hbsMismo]
        exact hbs
      -- the rest of the table is suspended from here on, in the same RAM
      rw [← hbsMismo] at hsinSeg hsinResto
      rw [← hram] at hsana hresto
      obtain ⟨hramResto, hcola⟩ := ih hrec hfin hsana hbsCola hsinResto hresto
      have hcreceCola : SwapCrece m₁.swap m'.swap := (suspenderSegmentos_crece hrec hfin :)
      rw [hram] at hcola
      exact ⟨hramResto.trans hram, .cons
        ⟨rfl, rfl, Or.inr ⟨fun hres ↦ hres rfl, hguardado.crece hbsCola hsinSeg hcreceCola⟩⟩ hcola⟩

/-! ## What a resumption reads -/

theorem transferirBloques_archivo (seg : Segmento) (restantes : ℕ) (b : UInt32)
    (m : KernelMemory) : (transferirBloques seg restantes b m).2.swap.archivo = m.swap.archivo := by
  induction restantes generalizing b m with
  | zero => rfl
  | succ restantes ih =>
    simp only [transferirBloques]
    split
    · rename_i hleer
      exact (swapLeerBloque_archivo hleer).1
    · rename_i hleer
      exact (ih _ _).trans (swapLeerBloque_archivo hleer).1

theorem transferirSwapARam_archivo (segmentos : List Segmento) (m : KernelMemory) :
    (transferirSwapARam segmentos m).2.swap.archivo = m.swap.archivo := by
  induction segmentos generalizing m with
  | nil => rfl
  | cons seg resto ih =>
    have hseg := transferirBloques_archivo seg
      (cantidadBloques seg.limite m.swap.blockSize).toNat 0 m
    unfold transferirSwapARam
    split
    · rename_i h
      rwa [h] at hseg
    · rename_i h
      rw [h] at hseg
      exact (ih _).trans hseg

/-- From block `b` on, the loop writes the rest of the segment to RAM. -/
theorem transferirBloques_bytes {seg : Segmento} (restantes : ℕ) {b : UInt32} {m m' : KernelMemory}
    (h : transferirBloques seg restantes b m = (true, m')) (hsana : m.ram.Sana)
    (hbs : 0 < m.swap.blockSize.toNat) (hsin : SinDesborde seg.limite m.swap.blockSize)
    (hdentro : seg.base.toNat + seg.limite.toNat ≤ m.ram.total)
    (hb : b.toNat + restantes = (cantidadBloques seg.limite m.swap.blockSize).toNat)
    (hinicio : seg.limite ≠ 0 → seg.swapBloqueInicio.toNat +
      (cantidadBloques seg.limite m.swap.blockSize).toNat < 2 ^ 32) :
    m.ram.Escrita m'.ram
      (ByteMemory.overlay (plano m.ram.tabla) (seg.base.toNat + b.toNat * m.swap.blockSize.toNat)
        (ByteMemory.slice m.swap.archivo
          ((seg.swapBloqueInicio.toNat + b.toNat) * m.swap.blockSize.toNat)
          (seg.limite.toNat - b.toNat * m.swap.blockSize.toNat))) := by
  induction restantes generalizing b m with
  | zero =>
    obtain ⟨_, rfl⟩ := Prod.mk.inj h
    have hfin := lt_cantidadBloques hbs hsin (b := b.toNat)
    have hnada : seg.limite.toNat - b.toNat * m.swap.blockSize.toNat = 0 := by omega
    rw [hnada, ByteMemory.slice_zero, ByteMemory.overlay_nil]
    exact ⟨MismaTabla.refl _, rfl, fun _ ↦ rfl⟩
  | succ restantes ih =>
    have htotal := m.ram.total_lt
    have hbmenor : b.toNat < (cantidadBloques seg.limite m.swap.blockSize).toNat := by omega
    have hquedan := (lt_cantidadBloques hbs hsin).mp hbmenor
    have hmul := toNat_mul_bloque hbs hsin hbmenor
    have hchunk := toNat_chunkDeBloque hbs hsin hbmenor
    have htope := hinicio (by rintro hcero; rw [hcero] at hquedan; simp at hquedan)
    have hbloque : (seg.swapBloqueInicio + b).toNat = seg.swapBloqueInicio.toNat + b.toNat :=
      toNat_add_of_lt (by omega)
    have hdir : (seg.base + b * m.swap.blockSize).toNat =
        seg.base.toNat + b.toNat * m.swap.blockSize.toNat := by
      rw [toNat_add_of_lt (by omega), hmul]
    have huno : (1 : UInt32).toNat = 1 := rfl
    have hsucc : (b + 1).toNat = b.toNat + 1 := toNat_add_of_lt (by rw [huno]; omega)
    have hfijo := fijo_swapLeerBloque m.swap (seg.swapBloqueInicio + b)
    simp only [transferirBloques] at h
    split at h
    · cases h
    rename_i datos swap₁ hleer
    rw [hleer] at hfijo
    obtain ⟨harchivo, hdatos⟩ := swapLeerBloque_archivo hleer
    have hdatos := hdatos datos rfl
    have hbsMismo : swap₁.blockSize = m.swap.blockSize := Swap.fijo_blockSize hfijo
    -- the front of the block goes to its place in RAM
    have hlargo : datos.length = m.swap.blockSize.toNat := by
      rw [hdatos, ByteMemory.length_slice]
    obtain ⟨ram₁, hescribir, hescrita⟩ := memoryIoEscribir_plano hsana
      (show (seg.base + b * m.swap.blockSize).toNat +
        (chunkDeBloque seg.limite m.swap.blockSize b).toNat ≤ m.ram.total by
          rw [hdir, hchunk]
          omega)
      (show (chunkDeBloque seg.limite m.swap.blockSize b).toNat ≤ datos.length by omega)
    rw [hescribir] at h
    have hpieza : datos.take (chunkDeBloque seg.limite m.swap.blockSize b).toNat =
        ByteMemory.slice m.swap.archivo
          ((seg.swapBloqueInicio.toNat + b.toNat) * m.swap.blockSize.toNat)
          (chunkDeBloque seg.limite m.swap.blockSize b).toNat := by
      rw [hdatos, ByteMemory.take_slice (by omega), hbloque]
    have hcola := ih h (hescrita.sana hsana) (by simp only [hbsMismo]; exact hbs)
      (by simp only [hbsMismo]; exact hsin) (by simp only [hescrita.total]; exact hdentro)
      (by simp only [hbsMismo]; omega) (by simp only [hbsMismo]; exact fun _ ↦ htope)
    refine hescrita.trans ?_
    simp only [hbsMismo, hsucc, harchivo, ← Nat.add_assoc, Nat.succ_mul, funext hescrita.plano,
      hpieza, hdir] at hcola
    by_cases hultimo : seg.limite.toNat ≤
        b.toNat * m.swap.blockSize.toNat + m.swap.blockSize.toNat
    · have hresto : (chunkDeBloque seg.limite m.swap.blockSize b).toNat =
          seg.limite.toNat - b.toNat * m.swap.blockSize.toNat := by omega
      rw [Nat.sub_eq_zero_of_le hultimo, ByteMemory.slice_zero, ByteMemory.overlay_nil, hresto]
        at hcola
      exact hcola
    · have hlleno : (chunkDeBloque seg.limite m.swap.blockSize b).toNat =
          m.swap.blockSize.toNat := by omega
      have hreparto : seg.limite.toNat - b.toNat * m.swap.blockSize.toNat =
          m.swap.blockSize.toNat + (seg.limite.toNat - (b.toNat * m.swap.blockSize.toNat +
            m.swap.blockSize.toNat)) := by
        omega
      rw [hreparto, ByteMemory.slice_add, ByteMemory.overlay_append, ByteMemory.length_slice]
      rw [hlleno] at hcola
      exact hcola

/-- What the segments of a process need so that a resumption restores them: their places in RAM do
not overlap, and their blocks are numbers of 32 bits. -/
structure Restaurables (m : KernelMemory) (segmentos : List Segmento) : Prop where
  dentro : ∀ seg ∈ segmentos,
    seg.Residente ∧ seg.base.toNat + seg.limite.toNat ≤ m.ram.total
  bloques : ∀ seg ∈ segmentos, SinDesborde seg.limite m.swap.blockSize ∧
    (seg.limite ≠ 0 → seg.swapBloqueInicio.toNat +
      (cantidadBloques seg.limite m.swap.blockSize).toNat < 2 ^ 32)
  juntos : ∀ address, ByteRange.hits (rangosSegmentos segmentos) address ≤ 1

/-- Every segment gets the bytes its blocks hold, and nothing else in RAM changes. -/
theorem transferirSwapARam_bytes {segmentos : List Segmento} {m m' : KernelMemory}
    (h : transferirSwapARam segmentos m = (true, m')) (hsana : m.ram.Sana)
    (hbs : 0 < m.swap.blockSize.toNat) (hsegs : Restaurables m segmentos) :
    m'.ram.Sana ∧ m'.ram.total = m.ram.total ∧
      (∀ seg ∈ segmentos,
        ByteMemory.slice (plano m'.ram.tabla) seg.base.toNat seg.limite.toNat =
          ByteMemory.slice m.swap.archivo
            (seg.swapBloqueInicio.toNat * m.swap.blockSize.toNat) seg.limite.toNat) ∧
      ∀ address, ByteRange.hits (rangosSegmentos segmentos) address = 0 →
        plano m'.ram.tabla address = plano m.ram.tabla address := by
  induction segmentos generalizing m with
  | nil =>
    obtain ⟨_, rfl⟩ := Prod.mk.inj h
    exact ⟨hsana, rfl, by simp, fun _ _ ↦ rfl⟩
  | cons seg resto ih =>
    obtain ⟨⟨hres, hdentro⟩, hdentroResto⟩ := List.forall_mem_cons.mp hsegs.dentro
    obtain ⟨⟨hsin, hinicio⟩, hbloquesResto⟩ := List.forall_mem_cons.mp hsegs.bloques
    have hcero : (0 : UInt32).toNat = 0 := rfl
    have hdisp := transferirBloques_soloDispositivos seg
      (cantidadBloques seg.limite m.swap.blockSize).toNat 0 m
    have harchivo := transferirBloques_archivo seg
      (cantidadBloques seg.limite m.swap.blockSize).toNat 0 m
    unfold transferirSwapARam at h
    split at h
    · cases h
    rename_i m₁ hprimero
    rw [hprimero] at hdisp harchivo
    have hbsMismo : m₁.swap.blockSize = m.swap.blockSize := Swap.fijo_blockSize hdisp.swap
    have hescrita := transferirBloques_bytes _ hprimero hsana hbs hsin hdentro
      (by rw [hcero, Nat.zero_add]) hinicio
    simp only [hcero, Nat.zero_mul, Nat.add_zero, Nat.sub_zero] at hescrita
    have hsuma : ∀ address, ByteRange.hits (rangosSegmentos (seg :: resto)) address =
        ByteRange.hits [seg.rango] address + ByteRange.hits (rangosSegmentos resto) address :=
      hits_rangosSegmentos_cons m.ram.total_lt hdentro
    obtain ⟨hsana', htotal, hbytes, hmarco⟩ := ih h (hescrita.sana hsana)
      (by rw [hbsMismo]; exact hbs)
      { dentro := by rw [hescrita.total]; exact hdentroResto
        bloques := by rw [hbsMismo]; exact hbloquesResto
        juntos := fun address ↦ by
          have := hsegs.juntos address
          rw [hsuma] at this
          omega }
    have harchivo : m₁.swap.archivo = m.swap.archivo := harchivo
    rw [hbsMismo, harchivo] at hbytes
    have hrango : ∀ address, ByteRange.hits [seg.rango] address =
        if seg.base.toNat ≤ address ∧ address < seg.base.toNat + seg.limite.toNat then 1 else 0 := by
      intro address
      rw [ByteRange.hits_cons, ByteRange.hits_nil, Nat.add_zero]
      rfl
    refine ⟨hsana', htotal.trans hescrita.total, List.forall_mem_cons.mpr ⟨?_, hbytes⟩,
      fun address hfuera ↦ ?_⟩
    · -- no later segment overlaps this one
      have hmismo : ByteMemory.slice (plano m'.ram.tabla) seg.base.toNat seg.limite.toNat =
          ByteMemory.slice (plano m₁.ram.tabla) seg.base.toNat seg.limite.toNat := by
        apply ByteMemory.slice_congr
        intro address hle hlt
        have huno := hsegs.juntos address
        rw [hsuma, hrango, if_pos ⟨hle, hlt⟩] at huno
        exact hmarco address (by omega)
      rw [hmismo, funext hescrita.plano]
      exact ByteMemory.slice_overlay_slice
    · rw [hsuma, hrango] at hfuera
      have hno : ¬ (seg.base.toNat ≤ address ∧ address < seg.base.toNat + seg.limite.toNat) := by
        intro hdentro
        rw [if_pos hdentro] at hfuera
        omega
      rw [hmarco address (by omega), hescrita.plano]
      apply ByteMemory.overlay_outside
      rw [ByteMemory.length_slice]
      omega

end PlugAndPlay.Memoria
