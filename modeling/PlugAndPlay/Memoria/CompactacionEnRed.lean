import PlugAndPlay.Memoria.CompactacionPreserva
import PlugAndPlay.Memoria.RamEnRed

/-!
# Compaction over the sockets

`compactar_memoria` with the messages that carry the bytes of the segments it moves. The base of a segment changes
whatever becomes of its copy, so the compaction does what it is for exactly when every piece of every segment that
moves arrives; then it is the one of `Compactacion`.
-/

open PlugAndPlay.Library

namespace PlugAndPlay.Memoria

open Red (Recepcion)

/-! ## The code -/

/-- Kernel Memory with the connections of its transfers: the sticks whose connection has broken, and of the coming
requests to the swap process, one by one, whether it has died by then. -/
structure MemoriaEnRed extends KernelMemory where
  rotos : List ℕ
  caidas : List Bool

def MemoriaEnRed.red (m : MemoriaEnRed) : RamEnRed := ⟨m.ram, m.rotos⟩

def MemoriaEnRed.conRed (m : MemoriaEnRed) (red : RamEnRed) : MemoriaEnRed :=
  { m with ram := red.ram, rotos := red.rotos }

section

variable [Recepcion]

/-- The copy of one segment; nothing when it has no end. -/
def copiarSegmentoRed (red : RamEnRed) (oldBase limite cursor : UInt32) : Option RamEnRed :=
  match memoryIoLeerRed red oldBase limite with
  | none => none
  | some (.error _, red) => some red
  | some (.ok datos, red) => (memoryIoEscribirRed red cursor limite datos).map Prod.snd

/-- The body of the loop over the sorted segments. -/
def moverSegmentoRed (m : MemoriaEnRed) (e : SegEntrada) (cursor : UInt32) : Option MemoriaEnRed :=
  if e.seg.base = cursor then some m
  else
    (copiarSegmentoRed m.red e.seg.base e.seg.limite cursor).map fun red ↦
      { m.conRed red with procesos := ponerBase m.procesos e.proc e.idx cursor }

/-- The loop over the sorted segments. -/
def compactarEntradasRed : List SegEntrada → UInt32 → MemoriaEnRed → Option (UInt32 × MemoriaEnRed)
  | [], cursor, m => some (cursor, m)
  | e :: resto, cursor, m =>
    (moverSegmentoRed m e cursor).bind (compactarEntradasRed resto (cursor + e.seg.limite))

/-- `compactar_memoria`. -/
def compactarMemoriaRed (qsort : Qsort) (m : MemoriaEnRed) : Option MemoriaEnRed :=
  let totalSegs := (m.procesos.map fun p ↦ p.segmentos.length).sum
  if totalSegs = 0 then some m
  else
    let entradas := entradas m.procesos
    if entradas = [] then
      some { m with bloquesLibres := bloquesResetAUnico 0 (conexionesTamanioTotalRam m.ram.tabla) }
    else
      (compactarEntradasRed (qsort.ordenar entradas) 0 m).map fun fin ↦
        { fin.2 with bloquesLibres := libresTrasCompactar fin.2.ram.tabla fin.1 }

/-! ## One segment -/

/-- Every piece of every segment that moves arrives, when it is read and when it is written. -/
def MovidasLlegan (tabla : List MemoryStick) : List SegEntrada → UInt32 → Prop
  | [], _ => True
  | e :: resto, cursor =>
    (e.seg.base = cursor ∨ LecturaLlega tabla [] e.seg.base e.seg.limite ∧
      EscrituraLlega tabla [] cursor e.seg.limite) ∧ MovidasLlegan tabla resto (cursor + e.seg.limite)

instance decidableMovidasLlegan (tabla : List MemoryStick) :
    ∀ (lista : List SegEntrada) (cursor : UInt32), Decidable (MovidasLlegan tabla lista cursor)
  | [], _ => inferInstanceAs (Decidable True)
  | e :: resto, cursor =>
    have := decidableMovidasLlegan tabla resto (cursor + e.seg.limite)
    inferInstanceAs (Decidable (_ ∧ _))

theorem MismaTabla.movidasLlegan {tabla otra : List MemoryStick} (h : MismaTabla tabla otra)
    (lista : List SegEntrada) (cursor : UInt32) :
    MovidasLlegan tabla lista cursor ↔ MovidasLlegan otra lista cursor := by
  induction lista generalizing cursor with
  | nil => exact Iff.rfl
  | cons e resto ih =>
    unfold MovidasLlegan
    rw [h.lecturaLlega, h.escrituraLlega, ih]

section Copia

variable {red despues : RamEnRed} {oldBase limite cursor : UInt32}

theorem copiarSegmentoRed_eq (h : red.ram.Sana) (hdentro : oldBase.toNat + limite.toNat ≤ red.ram.total)
    (hlee : LecturaLlega red.ram.tabla red.rotos oldBase limite)
    (hescribe : EscrituraLlega red.ram.tabla red.rotos cursor limite) :
    copiarSegmentoRed red oldBase limite cursor =
      some ⟨copiarSegmento red.ram oldBase limite cursor, red.rotos⟩ := by
  unfold copiarSegmentoRed copiarSegmento
  simp only [memoryIoLeerRed_eq h.sinCortes hlee, memoryIoLeer_plano h hdentro,
    memoryIoEscribirRed_eq h.sinCortes hescribe, Option.map_some]

/-- Connections only break. -/
theorem rotos_copiarSegmentoRed (h : copiarSegmentoRed red oldBase limite cursor = some despues) :
    red.rotos <:+ despues.rotos := by
  have hcrece : ∀ {antes tras : RamEnRed} {llegan corta roto : Prop},
      llegan ∧ corta ∧ tras.rotos = antes.rotos ∨ roto ∧ (∃ stick, tras.rotos = stick :: antes.rotos) →
        antes.rotos <:+ tras.rotos := by
    rintro antes tras llegan corta roto (⟨-, -, higuales⟩ | ⟨-, stick, hmas⟩)
    · exact higuales ▸ List.suffix_rfl
    · rw [hmas]
      exact List.suffix_cons stick _
  unfold copiarSegmentoRed at h
  split at h
  · cases h
  · rename_i hleida
    cases h
    exact hcrece (leerTramosRed_cases limite.toNat hleida)
  · rename_i hleida
    obtain ⟨⟨escrito, final⟩, hescrita, rfl⟩ := Option.map_eq_some_iff.mp h
    exact (hcrece (leerTramosRed_cases limite.toNat hleida)).trans
      (hcrece (escribirTramosRed_cases limite.toNat hescrita))

/-- A copy that loses no stick has moved every piece. -/
theorem llegan_of_copiarSegmentoRed (h : red.ram.Sana)
    (hdentro : oldBase.toNat + limite.toNat ≤ red.ram.total)
    (hcopia : copiarSegmentoRed red oldBase limite cursor = some despues) (hrotos : despues.rotos = red.rotos) :
    LecturaLlega red.ram.tabla red.rotos oldBase limite ∧
      EscrituraLlega red.ram.tabla red.rotos cursor limite := by
  have hlee : LecturaLlega red.ram.tabla red.rotos oldBase limite := by
    unfold copiarSegmentoRed at hcopia
    split at hcopia
    · cases hcopia
    · rename_i fallo medio hleida
      cases hcopia
      rcases leerTramosRed_cases limite.toNat hleida with ⟨hllega, -⟩ | ⟨-, stick, hmas⟩
      · exact hllega
      · rw [hrotos] at hmas
        exact absurd hmas.symm (List.cons_ne_self _ _)
    · rename_i hleida
      exact lecturaLlega_of_leerTramosRed limite.toNat hleida nofun
  refine ⟨hlee, ?_⟩
  unfold copiarSegmentoRed at hcopia
  rw [memoryIoLeerRed_eq h.sinCortes hlee, memoryIoLeer_plano h hdentro] at hcopia
  obtain ⟨⟨escrito, final⟩, hescrita, rfl⟩ := Option.map_eq_some_iff.mp hcopia
  rcases escribirTramosRed_cases limite.toNat hescrita with ⟨hllega, -⟩ | ⟨-, stick, hmas⟩
  · exact hllega
  · rw [hrotos] at hmas
    exact absurd hmas.symm (List.cons_ne_self _ _)

end Copia

/-! ## The loop -/

section Bucle

variable {m despues : MemoriaEnRed} {e : SegEntrada} {cursor : UInt32}

/-- Kernel Memory with the connections of another state. -/
def MemoriaEnRed.con (m : MemoriaEnRed) (memoria : KernelMemory) : MemoriaEnRed := ⟨memoria, m.rotos, m.caidas⟩

theorem moverSegmentoRed_eq (hsana : m.ram.Sana) (hdentro : e.seg.base.toNat + e.seg.limite.toNat ≤ m.ram.total)
    (hrotos : m.rotos = [])
    (hllega : e.seg.base = cursor ∨ LecturaLlega m.ram.tabla [] e.seg.base e.seg.limite ∧
      EscrituraLlega m.ram.tabla [] cursor e.seg.limite) :
    moverSegmentoRed m e cursor = some (m.con (moverSegmento m.toKernelMemory e cursor)) := by
  unfold moverSegmentoRed moverSegmento
  by_cases hbase : e.seg.base = cursor
  · rw [if_pos hbase, if_pos hbase]
    rfl
  · obtain ⟨hlee, hescribe⟩ := hllega.resolve_left hbase
    rw [← hrotos] at hlee hescribe
    have hcopia : copiarSegmentoRed m.red e.seg.base e.seg.limite cursor = _ :=
      copiarSegmentoRed_eq hsana hdentro hlee hescribe
    rw [if_neg hbase, if_neg hbase, hcopia]
    rfl

theorem rotos_moverSegmentoRed (h : moverSegmentoRed m e cursor = some despues) : m.rotos <:+ despues.rotos := by
  unfold moverSegmentoRed at h
  split at h
  · cases h
    exact List.suffix_refl _
  · obtain ⟨red, hcopia, rfl⟩ := Option.map_eq_some_iff.mp h
    exact rotos_copiarSegmentoRed hcopia

theorem llega_of_moverSegmentoRed (hsana : m.ram.Sana)
    (hdentro : e.seg.base.toNat + e.seg.limite.toNat ≤ m.ram.total) (hrotos : m.rotos = [])
    (h : moverSegmentoRed m e cursor = some despues) (hdespues : despues.rotos = []) :
    e.seg.base = cursor ∨ LecturaLlega m.ram.tabla [] e.seg.base e.seg.limite ∧
      EscrituraLlega m.ram.tabla [] cursor e.seg.limite := by
  unfold moverSegmentoRed at h
  split at h
  · exact .inl ‹_›
  · obtain ⟨red, hcopia, rfl⟩ := Option.map_eq_some_iff.mp h
    have hred : red.rotos = m.red.rotos := hdespues.trans hrotos.symm
    obtain ⟨hlee, hescribe⟩ := @llegan_of_copiarSegmentoRed _ m.red red _ _ _ hsana hdentro hcopia hred
    exact .inr ⟨hrotos ▸ hlee, hrotos ▸ hescribe⟩

theorem rotos_compactarEntradasRed (lista : List SegEntrada) {fin : UInt32 × MemoriaEnRed}
    (h : compactarEntradasRed lista cursor m = some fin) : m.rotos <:+ fin.2.rotos := by
  induction lista generalizing cursor m with
  | nil =>
    cases h
    exact List.suffix_refl _
  | cons e resto ih =>
    obtain ⟨medio, hmover, hresto⟩ := Option.bind_eq_some_iff.mp h
    exact (rotos_moverSegmentoRed hmover).trans (ih hresto)

/-- Where all pieces arrive, the loop is the one without messages. -/
theorem compactarEntradasRed_eq (lista : List SegEntrada) (hsana : m.ram.Sana)
    (h : Ordenadas m.toKernelMemory lista cursor.toNat m.ram.total) (hrotos : m.rotos = [])
    (hllegan : MovidasLlegan m.ram.tabla lista cursor) :
    compactarEntradasRed lista cursor m =
      some ((compactarEntradas lista cursor m.toKernelMemory).1,
        m.con (compactarEntradas lista cursor m.toKernelMemory).2) := by
  induction lista generalizing cursor m with
  | nil => rfl
  | cons e resto ih =>
    obtain ⟨hllega, hresto⟩ := hllegan
    have hescrita := h.escrita hsana
    have hpaso := h.paso
    rw [← hescrita.total] at hpaso
    rw [← hescrita.mismaTabla.movidasLlegan] at hresto
    rw [compactarEntradasRed, moverSegmentoRed_eq hsana h.cabe.1 hrotos hllega, Option.bind_some,
      @ih (m.con (moverSegmento m.toKernelMemory e cursor)) _ (hescrita.sana hsana) hpaso hrotos hresto]
    rfl

/-- A loop that loses no stick has moved every piece. -/
theorem llegan_of_compactarEntradasRed (lista : List SegEntrada) (hsana : m.ram.Sana)
    (h : Ordenadas m.toKernelMemory lista cursor.toNat m.ram.total) (hrotos : m.rotos = [])
    {fin : UInt32 × MemoriaEnRed} (hfin : compactarEntradasRed lista cursor m = some fin)
    (hdespues : fin.2.rotos = []) : MovidasLlegan m.ram.tabla lista cursor := by
  induction lista generalizing cursor m with
  | nil => trivial
  | cons e resto ih =>
    obtain ⟨medio, hmover, hresto⟩ := Option.bind_eq_some_iff.mp hfin
    have hmedio : medio.rotos = [] := by
      have hsufijo := rotos_compactarEntradasRed resto hresto
      rw [hdespues] at hsufijo
      exact List.suffix_nil.mp hsufijo
    have hllega := llega_of_moverSegmentoRed hsana h.cabe.1 hrotos hmover hmedio
    have hescrita := h.escrita hsana
    have hpaso := h.paso
    rw [← hescrita.total] at hpaso
    rw [moverSegmentoRed_eq hsana h.cabe.1 hrotos hllega] at hmover
    obtain rfl := Option.some.inj hmover
    refine ⟨hllega, ?_⟩
    rw [← hescrita.mismaTabla.movidasLlegan]
    exact @ih (m.con (moverSegmento m.toKernelMemory e cursor)) _ (hescrita.sana hsana) hpaso hrotos hresto

end Bucle

/-! ## The whole compaction -/

section Entera

variable {qsort : Qsort} {m despues : MemoriaEnRed}

theorem compactarMemoriaRed_of_entradas (h : entradas m.procesos ≠ []) :
    compactarMemoriaRed qsort m =
      (compactarEntradasRed (qsort.ordenar (entradas m.procesos)) 0 m).map fun fin ↦
        { fin.2 with bloquesLibres := libresTrasCompactar fin.2.ram.tabla fin.1 } := by
  unfold compactarMemoriaRed
  rw [if_neg fun htotal ↦ h (entradas_of_total htotal), if_neg h]

/-- Where all pieces arrive, `compactar_memoria` is the one without messages. -/
theorem compactarMemoriaRed_eq (hsana : m.ram.Sana)
    (hjuntos : ByteRange.Packed (rangosResidentes m.procesos) m.ram.total) (hrotos : m.rotos = [])
    (hllegan : MovidasLlegan m.ram.tabla (qsort.ordenar (entradas m.procesos)) 0) :
    compactarMemoriaRed qsort m = some (m.con (compactarMemoria qsort m.toKernelMemory)) := by
  by_cases hnada : entradas m.procesos = []
  · unfold compactarMemoriaRed compactarMemoria
    by_cases htotal : (m.procesos.map fun p ↦ p.segmentos.length).sum = 0
    · rw [if_pos htotal, if_pos htotal]
      rfl
    · rw [if_neg htotal, if_neg htotal, if_pos hnada, if_pos hnada]
      rfl
  · have ho := ordenadas_ordenar (m := m.toKernelMemory) qsort m.ram.total_lt hjuntos
    rw [compactarMemoriaRed_of_entradas hnada, compactarMemoria_of_entradas hnada,
      compactarEntradasRed_eq _ hsana ho hrotos hllegan]
    rfl

theorem llegan_of_compactarMemoriaRed (hsana : m.ram.Sana)
    (hjuntos : ByteRange.Packed (rangosResidentes m.procesos) m.ram.total) (hrotos : m.rotos = [])
    (hcompacta : compactarMemoriaRed qsort m = some despues) (hdespues : despues.rotos = []) :
    MovidasLlegan m.ram.tabla (qsort.ordenar (entradas m.procesos)) 0 := by
  by_cases hnada : entradas m.procesos = []
  · rw [ordenar_of_nil hnada]
    trivial
  · have ho := ordenadas_ordenar (m := m.toKernelMemory) qsort m.ram.total_lt hjuntos
    rw [compactarMemoriaRed_of_entradas hnada] at hcompacta
    obtain ⟨fin, hfin, rfl⟩ := Option.map_eq_some_iff.mp hcompacta
    exact llegan_of_compactarEntradasRed _ hsana ho hrotos hfin hdespues

/-- A byte of RAM, while all sticks are there. -/
theorem RamEnRed.leerByte {red : RamEnRed} (h : red.ram.Sana) (hrotos : red.rotos = []) {dirFisica : UInt32}
    (hdentro : dirFisica.toNat < red.ram.total) :
    memoryIoLeerRed red dirFisica 1 = some (.ok [plano red.ram.tabla dirFisica.toNat], red) := by
  have huno : ((1 : UInt32).toNat) = 1 := rfl
  have hllega : LecturaLlega red.ram.tabla red.rotos dirFisica 1 := by
    rw [hrotos]
    have hminima := Recepcion.minima
    exact lecturaLlega_of_corta (by omega)
  rw [memoryIoLeerRed_eq h.sinCortes hllega, memoryIoLeer_plano h (by omega)]
  rfl

end Entera

/-- What a compaction is for. No stick is lost; every resident segment has a new base, at which each of its bytes
reads as it did at the old one; the resident segments fill exactly the start of RAM, in their old order; a swapped
segment and everything but the bases stays as it was; and the free list is the single block behind them. -/
structure MemoriaEnRed.Conserva (m despues : MemoriaEnRed) : Prop where
  sinPerdidas : despues.rotos = []
  bytes : ∀ proc idx seg, segmentoEn m.procesos proc idx = some seg → seg.Residente →
    ∃ base, segmentoEn despues.procesos proc idx = some { seg with base := base } ∧
      ∀ offset < seg.limite, ∃ dato, memoryIoLeerRed m.red (seg.base + offset) 1 = some (.ok [dato], m.red) ∧
        memoryIoLeerRed despues.red (base + offset) 1 = some (.ok [dato], despues.red)
  ocupa : ∀ address, ByteRange.hits (rangosResidentes despues.procesos) address =
    if address < bytesResidentes m.procesos then 1 else 0
  orden : ∀ proc idx seg proc' idx' seg', segmentoEn m.procesos proc idx = some seg →
    segmentoEn m.procesos proc' idx' = some seg' → seg.Residente → seg'.Residente →
    seg.base < seg'.base → ∃ base base' : UInt32,
      segmentoEn despues.procesos proc idx = some { seg with base := base } ∧
      segmentoEn despues.procesos proc' idx' = some { seg' with base := base' } ∧
      base.toNat + seg.limite.toNat ≤ base'.toNat
  suspendido : ∀ proc idx seg, segmentoEn m.procesos proc idx = some seg → ¬ seg.Residente →
    segmentoEn despues.procesos proc idx = some seg
  tablas : despues.procesos.map Proceso.sinBases = m.procesos.map Proceso.sinBases
  libres : (∃ p ∈ m.procesos, p.segmentos ≠ []) → despues.bloquesLibres =
    if bytesResidentes m.procesos < m.ram.total then
      [⟨UInt32.ofNat (bytesResidentes m.procesos), UInt32.ofNat (m.ram.total - bytesResidentes m.procesos)⟩]
    else []

theorem conserva_compactarMemoria {m : MemoriaEnRed} (qsort : Qsort) (hsana : m.ram.Sana)
    (hjuntos : ByteRange.Packed (rangosResidentes m.procesos) m.ram.total) (hrotos : m.rotos = []) :
    m.Conserva (m.con (compactarMemoria qsort m.toKernelMemory)) := by
  have hc : Compactada m.toKernelMemory (compactarMemoria qsort m.toKernelMemory) :=
    compactarMemoria_compactada qsort m.ram.total_lt hjuntos
  obtain ⟨hsana', hmovido⟩ := compactarMemoria_bytes qsort hsana hjuntos
  refine ⟨hrotos, ?_, hc.ocupa, hc.orden, hc.suspendido, hc.tablas, hc.libres_eq⟩
  intro proc idx seg hget hres
  obtain ⟨base, hnuevo, hfin, hbytes⟩ := hmovido proc idx seg hget hres
  refine ⟨base, hnuevo, fun offset hoffset ↦ ?_⟩
  have hlt : offset.toNat < seg.limite.toNat := UInt32.lt_iff_toNat_lt.mp hoffset
  have hviejo : seg.base.toNat + seg.limite.toNat ≤ m.ram.total := by
    obtain ⟨p, hp, hs⟩ := Option.bind_eq_some_iff.mp hget
    exact hjuntos.within _ (mem_rangosResidentes (List.mem_of_getElem? hp) (List.mem_of_getElem? hs) hres)
  have hcabe := bytesResidentes_le m.ram.total_lt hjuntos
  have htotal := m.ram.total_lt
  have hdirVieja : (seg.base + offset).toNat = seg.base.toNat + offset.toNat := toNat_add_of_lt (by omega)
  have hdirNueva : (base + offset).toNat = base.toNat + offset.toNat := toNat_add_of_lt (by omega)
  have hdato : plano (compactarMemoria qsort m.toKernelMemory).ram.tabla (base + offset).toNat =
      plano m.ram.tabla (seg.base + offset).toNat := by
    rw [hdirNueva, hdirVieja]
    exact ByteMemory.eq_of_slice_eq hbytes hlt
  have hantes : (seg.base + offset).toNat < m.ram.total := by omega
  have hdentro : (base + offset).toNat < (compactarMemoria qsort m.toKernelMemory).ram.total := by
    rw [hc.total]
    omega
  refine ⟨_, RamEnRed.leerByte hsana hrotos hantes, ?_⟩
  have hleido := @RamEnRed.leerByte _ (m.con (compactarMemoria qsort m.toKernelMemory)).red hsana' hrotos
    (base + offset) hdentro
  have hpieza : plano m.red.ram.tabla (seg.base + offset).toNat =
      plano (m.con (compactarMemoria qsort m.toKernelMemory)).red.ram.tabla (base + offset).toNat := hdato.symm
  rw [hpieza]
  exact hleido

/-- On reachable sticks, and with resident segments that neither overlap nor leave RAM, compaction does what it is
for if and only if every piece of every segment that moves arrives. -/
theorem compactarMemoriaRed_iff (qsort : Qsort) (m : MemoriaEnRed) (hsana : m.ram.Sana)
    (hjuntos : ByteRange.Packed (rangosResidentes m.procesos) m.ram.total) (hrotos : m.rotos = []) :
    (∃ despues, compactarMemoriaRed qsort m = some despues ∧ m.Conserva despues) ↔
      MovidasLlegan m.ram.tabla (qsort.ordenar (entradas m.procesos)) 0 := by
  constructor
  · rintro ⟨despues, hcompacta, hconserva⟩
    exact llegan_of_compactarMemoriaRed hsana hjuntos hrotos hcompacta hconserva.sinPerdidas
  · intro hllegan
    exact ⟨_, compactarMemoriaRed_eq hsana hjuntos hrotos hllegan,
      conserva_compactarMemoria qsort hsana hjuntos hrotos⟩

end

/-- Two sticks of four bytes; a segment across their border, one behind it, and a swapped one. -/
def memoriaFragmentada : KernelMemory where
  config := ⟨16, some "BEST"⟩
  procesos := [⟨1, .cero, [⟨0, 5, 3, 0⟩, ⟨1, sinBase, 7, 2⟩], []⟩, ⟨2, .cero, [⟨0, 2, 3, 0⟩], []⟩]
  bloquesLibres := [⟨0, 2⟩]
  ram := ⟨[⟨1, 4, "", "", 0, 3, fun a ↦ .ofNat a⟩, ⟨2, 4, "", "", 4, 5, fun a ↦ .ofNat (10 + a)⟩], [], 0⟩
  swap := ⟨6, 4, 4, 8, 32, fun _ ↦ 0, []⟩

theorem memoriaFragmentada_sana : memoriaFragmentada.ram.Sana :=
  ⟨by simp [memoriaFragmentada, BasesAcumuladas], by simp [memoriaFragmentada, Alcanzables], rfl⟩

theorem memoriaFragmentada_packed :
    ByteRange.Packed (rangosResidentes memoriaFragmentada.procesos) memoriaFragmentada.ram.total := by
  have hrangos : rangosResidentes memoriaFragmentada.procesos = [⟨5, 3⟩, ⟨2, 3⟩] := by decide
  rw [hrangos]
  refine ⟨fun address ↦ ?_, ?_⟩
  · simp only [ByteRange.hits_cons, ByteRange.hits_nil]
    split_ifs <;> simp only [ByteRange.Contains] at * <;> omega
  · simp [memoriaFragmentada, Ram.total, conexionesTamanioTotalRam]

section Muestra

local instance recepcionDeCompactacion : Recepcion := Red.recepcionTipica

/-- The compaction of the fragmented memory: the later segment ends up behind the earlier one. -/
theorem compactarMemoriaRed_fragmentada : ∃ despues,
    compactarMemoriaRed .insercion ⟨memoriaFragmentada, [], []⟩ = some despues ∧
      despues.bloquesLibres = [⟨6, 2⟩] ∧
        MemoriaEnRed.Conserva ⟨memoriaFragmentada, [], []⟩ despues := by
  obtain ⟨despues, hcompacta, hconserva⟩ :=
    (compactarMemoriaRed_iff .insercion ⟨memoriaFragmentada, [], []⟩ memoriaFragmentada_sana
      memoriaFragmentada_packed rfl).mpr (by decide)
  exact ⟨despues, hcompacta, (hconserva.libres ⟨_, List.mem_cons_self, by decide⟩).trans (by decide), hconserva⟩

/-- One stick, and one segment behind a gap. -/
def memoriaDeUnSegmento (tamanio base limite : UInt32) : KernelMemory where
  config := ⟨-1, none⟩
  procesos := [⟨1, .cero, [⟨0, base, limite, 0⟩], []⟩]
  bloquesLibres := [⟨0, base⟩]
  ram := ⟨[⟨1, tamanio, "", "", 0, 3, fun _ ↦ 7⟩], [], 0⟩
  swap := .desconectado

theorem memoriaDeUnSegmento_sana (tamanio base limite : UInt32) :
    (memoriaDeUnSegmento tamanio base limite).ram.Sana :=
  ⟨by simp [memoriaDeUnSegmento, BasesAcumuladas], by simp [memoriaDeUnSegmento, Alcanzables], rfl⟩

theorem memoriaDeUnSegmento_packed {tamanio base limite : UInt32} (hbase : base ≠ sinBase)
    (hdentro : base.toNat + limite.toNat ≤ tamanio.toNat) :
    ByteRange.Packed (rangosResidentes (memoriaDeUnSegmento tamanio base limite).procesos)
      (memoriaDeUnSegmento tamanio base limite).ram.total := by
  have hrangos : rangosResidentes (memoriaDeUnSegmento tamanio base limite).procesos =
      [⟨base.toNat, limite.toNat⟩] := by
    simp [rangosResidentes, rangosSegmentos, memoriaDeUnSegmento, Segmento.Residente, hbase, Segmento.rango]
  rw [hrangos]
  refine ⟨fun address ↦ ?_, ?_⟩
  · simp only [ByteRange.hits_cons, ByteRange.hits_nil]
    split_ifs <;> omega
  · simpa [memoriaDeUnSegmento, Ram.total, conexionesTamanioTotalRam] using hdentro

/-- The compaction that moves 131073 bytes of one stick has no end: they are never read. One that moves 131061 has
none either, because they are never acknowledged. -/
theorem compactarMemoriaRed_sin_fin :
    ((memoriaDeUnSegmento 200000 8 131073).ram.Sana ∧
      ByteRange.Packed (rangosResidentes (memoriaDeUnSegmento 200000 8 131073).procesos)
        (memoriaDeUnSegmento 200000 8 131073).ram.total ∧
      compactarMemoriaRed .insercion ⟨memoriaDeUnSegmento 200000 8 131073, [], []⟩ = none) ∧
    (memoriaDeUnSegmento 200000 8 131061).ram.Sana ∧
      ByteRange.Packed (rangosResidentes (memoriaDeUnSegmento 200000 8 131061).procesos)
        (memoriaDeUnSegmento 200000 8 131061).ram.total ∧
      compactarMemoriaRed .insercion ⟨memoriaDeUnSegmento 200000 8 131061, [], []⟩ = none := by
  refine ⟨⟨memoriaDeUnSegmento_sana _ _ _, memoriaDeUnSegmento_packed (by decide) (by decide), rfl⟩,
    memoriaDeUnSegmento_sana _ _ _, memoriaDeUnSegmento_packed (by decide) (by decide), rfl⟩

end Muestra

end PlugAndPlay.Memoria
