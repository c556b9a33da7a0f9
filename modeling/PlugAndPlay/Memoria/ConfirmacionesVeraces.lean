import PlugAndPlay.Memoria.CompactacionPreserva
import PlugAndPlay.Memoria.EscriturasCortadas
import PlugAndPlay.Memoria.Operaciones
import PlugAndPlay.Memoria.SwapArchivo

/-!
# What Kernel Memory confirms

A write, a resumption and a compaction hand bytes to `memory_io_escribir` and do not look at what becomes
of them. For each of the three: what it tells is true if and only if every write either reached its end or
left unwritten only bytes that were there already.
-/

open PlugAndPlay.Library

namespace PlugAndPlay.Memoria

/-! ## One write -/

/-- The write leaves its bytes at the address. -/
def QuedaEscrito (ram : Ram) (dirFisica tamanio : UInt32) (datos : List UInt8) : Prop :=
  lectura (memoryIoEscribir ram dirFisica tamanio datos).2.tabla dirFisica tamanio =
    .ok (datos.take tamanio.toNat)

/-- What lies behind the first stick that fails was already there; nothing does if none fails. -/
def RestoYaEsta (ram : Ram) (dirFisica tamanio : UInt32) (datos : List UInt8) : Prop :=
  lectura ram.tabla (dirFisica + bytesEscritos ram dirFisica tamanio)
      (tamanio - bytesEscritos ram dirFisica tamanio) =
    .ok ((datos.take tamanio.toNat).drop (bytesEscritos ram dirFisica tamanio).toNat)

theorem quedaEscrito_iff (ram : Ram) (dirFisica : UInt32) {tamanio : UInt32} {datos : List UInt8}
    (hdatos : tamanio.toNat ≤ datos.length) :
    QuedaEscrito ram dirFisica tamanio datos ↔ RestoYaEsta ram dirFisica tamanio datos :=
  lectura_memoryIoEscribir ram dirFisica hdatos

/-! ## `ESCRITURA_MEMORIA` -/

/-- `OK` is sent only if the bytes are at the translated address. -/
def EscrituraVeraz (m : KernelMemory) (pid : ℤ) (dir tamanio : UInt32) (datos : List UInt8) : Prop :=
  .ok .escrituraMemoria ∈ (manejarEscrituraMemoria m pid dir tamanio datos).1 →
    ∃ proc dirFisica, procesosBuscar m.procesos pid = some proc ∧
      traducirDirLogica m.config proc dir tamanio = some dirFisica ∧
        lectura (manejarEscrituraMemoria m pid dir tamanio datos).2.ram.tabla dirFisica tamanio = .ok datos

def EscrituraCumplida (m : KernelMemory) (pid : ℤ) (dir tamanio : UInt32) (datos : List UInt8) : Prop :=
  ∀ proc dirFisica, procesosBuscar m.procesos pid = some proc →
    traducirDirLogica m.config proc dir tamanio = some dirFisica → dirFisica ≠ sinBase →
      RestoYaEsta m.ram dirFisica tamanio datos

theorem manejarEscritura_traducida {m : KernelMemory} {pid : ℤ} {dir tamanio dirFisica : UInt32}
    {proc : Proceso} (hproc : procesosBuscar m.procesos pid = some proc)
    (hdir : traducirDirLogica m.config proc dir tamanio = some dirFisica) (hbase : dirFisica ≠ sinBase)
    (datos : List UInt8) :
    manejarEscrituraMemoria m pid dir tamanio datos =
      ([.ok .escrituraMemoria], { m with ram := (memoryIoEscribir m.ram dirFisica tamanio datos).2 }) := by
  unfold manejarEscrituraMemoria
  simp only [hproc, hdir, if_neg hbase]

/-- The answer comes from the last branch only. -/
theorem confirma_escritura {m : KernelMemory} {pid : ℤ} {dir tamanio : UInt32} {datos : List UInt8}
    (h : .ok .escrituraMemoria ∈ (manejarEscrituraMemoria m pid dir tamanio datos).1) :
    ∃ proc dirFisica, procesosBuscar m.procesos pid = some proc ∧
      traducirDirLogica m.config proc dir tamanio = some dirFisica ∧ dirFisica ≠ sinBase := by
  unfold manejarEscrituraMemoria at h
  split at h
  · cases List.mem_singleton.mp h
  rename_i proc hproc
  split at h
  · cases List.mem_singleton.mp h
  rename_i dirFisica hdir
  split at h
  · cases h
  · rename_i hbase
    exact ⟨proc, dirFisica, hproc, hdir, hbase⟩

theorem escrituraVeraz_iff (m : KernelMemory) (pid : ℤ) (dir : UInt32) {tamanio : UInt32}
    {datos : List UInt8} (hdatos : datos.length = tamanio.toNat) :
    EscrituraVeraz m pid dir tamanio datos ↔ EscrituraCumplida m pid dir tamanio datos := by
  have hescrito : ∀ dirFisica, lectura (memoryIoEscribir m.ram dirFisica tamanio datos).2.tabla dirFisica
      tamanio = .ok datos ↔ RestoYaEsta m.ram dirFisica tamanio datos := by
    intro dirFisica
    have htodos : datos.take tamanio.toNat = datos := List.take_of_length_le (Nat.le_of_eq hdatos)
    have hiff := quedaEscrito_iff m.ram dirFisica (Nat.le_of_eq hdatos.symm)
    unfold QuedaEscrito at hiff
    rwa [htodos] at hiff
  constructor
  · intro hveraz proc dirFisica hproc hdir hbase
    have hrun := manejarEscritura_traducida hproc hdir hbase datos
    obtain ⟨proc', dirFisica', hproc', hdir', hleido⟩ := hveraz (by rw [hrun]; exact List.mem_cons_self)
    obtain rfl := Option.some.inj (hproc.symm.trans hproc')
    obtain rfl := Option.some.inj (hdir.symm.trans hdir')
    rw [hrun] at hleido
    exact (hescrito dirFisica).mp hleido
  · intro hcumple hok
    obtain ⟨proc, dirFisica, hproc, hdir, hbase⟩ := confirma_escritura hok
    refine ⟨proc, dirFisica, hproc, hdir, ?_⟩
    rw [manejarEscritura_traducida hproc hdir hbase datos]
    exact (hescrito dirFisica).mpr (hcumple proc dirFisica hproc hdir hbase)

/-! ## `DES_SUSPENDER_PROCESO` -/

/-- The property of every write in the loop over the blocks of a segment, up to a block that SWAP does not
give. -/
def EnCadaBloque (P : Ram → UInt32 → UInt32 → List UInt8 → Prop) (seg : Segmento) :
    ℕ → UInt32 → KernelMemory → Prop
  | 0, _, _ => True
  | restantes + 1, b, m =>
    match swapLeerBloque m.swap (seg.swapBloqueInicio + b) with
    | (none, _) => True
    | (some datos, swap) =>
      let dirFisica := seg.base + b * m.swap.blockSize
      let chunk := chunkDeBloque seg.limite m.swap.blockSize b
      P m.ram dirFisica chunk datos ∧
        EnCadaBloque P seg restantes (b + 1)
          { m with ram := (memoryIoEscribir m.ram dirFisica chunk datos).2, swap := swap }

/-- The same over the segments of a process. -/
def EnCadaSegmento (P : Ram → UInt32 → UInt32 → List UInt8 → Prop) : List Segmento → KernelMemory → Prop
  | [], _ => True
  | seg :: resto, m =>
    EnCadaBloque P seg (cantidadBloques seg.limite m.swap.blockSize).toNat 0 m ∧
      match transferirBloques seg (cantidadBloques seg.limite m.swap.blockSize).toNat 0 m with
      | (false, _) => True
      | (true, m) => EnCadaSegmento P resto m

/-- The bytes of all blocks of a segment. -/
def bytesEnBloques (limite bs : UInt32) : ℕ :=
  ((List.range (cantidadBloques limite bs).toNat).map fun b ↦
    (chunkDeBloque limite bs (UInt32.ofNat b)).toNat).sum

/-- The reads of the resumption from SWAP. -/
def leerBloques (seg : Segmento) : ℕ → UInt32 → Swap → Option Swap
  | 0, _, swap => some swap
  | restantes + 1, b, swap =>
    match swapLeerBloque swap (seg.swapBloqueInicio + b) with
    | (none, _) => none
    | (some _, swap) => leerBloques seg restantes (b + 1) swap

def leerSegmentos : List Segmento → Swap → Option Swap
  | [], swap => some swap
  | seg :: resto, swap =>
    (leerBloques seg (cantidadBloques seg.limite swap.blockSize).toNat 0 swap).bind (leerSegmentos resto)

/-- The segments of the process get places, and the state in which their bytes are brought back. -/
def Coloca (m : KernelMemory) (pid : ℤ) (segmentos : List Segmento) (m' : KernelMemory) : Prop :=
  ∃ proc libres, procesosBuscar m.procesos pid = some proc ∧ ¬ m.swap.socket < 0 ∧
    reservarSegmentosConRollback m.config.worstFit proc.segmentos m.bloquesLibres =
      (some segmentos, libres) ∧ m' = ponerSegmentos { m with bloquesLibres := libres } pid segmentos

/-- Success is answered only if every byte of every segment came back. -/
def ReanudacionVeraz (m : KernelMemory) (pid : ℤ) : Prop :=
  .ok .desSuspenderProceso ∈ (manejarDesSuspenderProceso m pid).1 →
    ∀ segmentos m', Coloca m pid segmentos m' →
      (∀ seg ∈ segmentos, bytesEnBloques seg.limite m.swap.blockSize = seg.limite.toNat) ∧
        EnCadaSegmento QuedaEscrito segmentos m'

/-- If SWAP gives every block, the blocks hold the segments and every write is complete. -/
def ReanudacionCumplida (m : KernelMemory) (pid : ℤ) : Prop :=
  ∀ segmentos m', Coloca m pid segmentos m' → (leerSegmentos segmentos m.swap).isSome →
    (∀ seg ∈ segmentos, seg.limite = 0 ∨
      0 < m.swap.blockSize.toNat ∧ SinDesborde seg.limite m.swap.blockSize) ∧
      EnCadaSegmento RestoYaEsta segmentos m'

/-! ### Blocks -/

/-- A sum that wraps gives no block at all. -/
theorem sinDesborde_of_bloques {limite bs : UInt32} (h : 0 < (cantidadBloques limite bs).toNat) :
    0 < bs.toNat ∧ SinDesborde limite bs := by
  have hlimite := limite.toNat_lt
  have hbs := bs.toNat_lt
  have huno : (1 : UInt32).toNat = 1 := rfl
  unfold cantidadBloques at h
  rw [UInt32.toNat_div, UInt32.toNat_sub, UInt32.toNat_add, huno] at h
  have hpos : 0 < bs.toNat := by
    by_contra hno
    rw [Nat.eq_zero_of_not_pos hno, Nat.div_zero] at h
    exact Nat.lt_irrefl 0 h
  refine ⟨hpos, ?_⟩
  unfold SinDesborde
  have hdiv := (Nat.le_div_iff_mul_le hpos).mp h
  by_contra hno
  omega

theorem toNat_ofNat_bloque {n b : ℕ} (h : b < n) (hn : n < 2 ^ 32) : (UInt32.ofNat b).toNat = b :=
  UInt32.toNat_ofNat_of_lt' (Nat.lt_trans h hn)

/-- The first blocks of a segment. -/
theorem suma_chunks {limite bs : UInt32} (hbs : 0 < bs.toNat) (hsin : SinDesborde limite bs) {n : ℕ}
    (hn : n ≤ (cantidadBloques limite bs).toNat) :
    ((List.range n).map fun b ↦ (chunkDeBloque limite bs (UInt32.ofNat b)).toNat).sum =
      min (n * bs.toNat) limite.toNat := by
  have htope := (cantidadBloques limite bs).toNat_lt
  induction n with
  | zero => simp
  | succ n ih =>
    have hb : (UInt32.ofNat n).toNat = n := toNat_ofNat_bloque hn htope
    have hmenor : n * bs.toNat < limite.toNat := (lt_cantidadBloques hbs hsin).mp hn
    have hchunk := toNat_chunkDeBloque hbs hsin (b := UInt32.ofNat n) (by rw [hb]; exact hn)
    rw [List.range_succ, List.map_append, List.sum_append, ih (Nat.le_of_succ_le hn), List.map_singleton,
      List.sum_singleton, hchunk, hb, Nat.succ_mul]
    omega

theorem bytesEnBloques_eq_iff (limite bs : UInt32) :
    bytesEnBloques limite bs = limite.toNat ↔ limite = 0 ∨ 0 < bs.toNat ∧ SinDesborde limite bs := by
  unfold bytesEnBloques
  constructor
  · intro hsuma
    rcases Nat.eq_zero_or_pos (cantidadBloques limite bs).toNat with hcero | hpos
    · rw [hcero] at hsuma
      exact .inl (UInt32.toNat_inj.mp hsuma.symm)
    · exact .inr (sinDesborde_of_bloques hpos)
  · rintro (rfl | ⟨hbs, hsin⟩)
    · rcases Nat.eq_zero_or_pos (cantidadBloques 0 bs).toNat with hcero | hpos
      · rw [hcero]
        rfl
      · obtain ⟨hbs, hsin⟩ := sinDesborde_of_bloques hpos
        have hnada := (lt_cantidadBloques hbs hsin).mp hpos
        rw [UInt32.toNat_zero] at hnada
        omega
    · rw [suma_chunks hbs hsin (Nat.le_refl _)]
      apply Nat.min_eq_right
      by_contra hno
      have hotro := (lt_cantidadBloques hbs hsin).mpr (Nat.lt_of_not_le hno)
      exact Nat.lt_irrefl _ hotro

/-! ### The loops -/

/-- The loop over the blocks ends well exactly when SWAP gives every block. -/
theorem transferirBloques_leidos (seg : Segmento) (restantes : ℕ) (b : UInt32) (m : KernelMemory) :
    (∃ m', transferirBloques seg restantes b m = (true, m') ∧
      leerBloques seg restantes b m.swap = some m'.swap) ∨
    (∃ m', transferirBloques seg restantes b m = (false, m') ∧
      leerBloques seg restantes b m.swap = none) := by
  induction restantes generalizing b m with
  | zero => exact .inl ⟨m, rfl, rfl⟩
  | succ restantes ih =>
    unfold transferirBloques leerBloques
    cases swapLeerBloque m.swap (seg.swapBloqueInicio + b) with
    | mk datos swap =>
      cases datos with
      | none => exact .inr ⟨_, rfl, rfl⟩
      | some datos => exact ih (b + 1) _

theorem transferirSwapARam_leidos (segmentos : List Segmento) (m : KernelMemory) :
    (transferirSwapARam segmentos m).1 = (leerSegmentos segmentos m.swap).isSome := by
  induction segmentos generalizing m with
  | nil => rfl
  | cons seg resto ih =>
    unfold transferirSwapARam leerSegmentos
    obtain ⟨m', hrun, hleidos⟩ | ⟨m', hrun, hleidos⟩ :=
      transferirBloques_leidos seg (cantidadBloques seg.limite m.swap.blockSize).toNat 0 m
    · rw [hrun, hleidos]
      exact ih m'
    · rw [hrun, hleidos]
      rfl

theorem enCadaBloque_iff (seg : Segmento) (restantes : ℕ) {b : UInt32} {m : KernelMemory}
    (hb : b.toNat + restantes = (cantidadBloques seg.limite m.swap.blockSize).toNat) :
    EnCadaBloque QuedaEscrito seg restantes b m ↔ EnCadaBloque RestoYaEsta seg restantes b m := by
  induction restantes generalizing b m with
  | zero => exact Iff.rfl
  | succ restantes ih =>
    have hbmenor : b.toNat < (cantidadBloques seg.limite m.swap.blockSize).toNat := by omega
    obtain ⟨hbs, hsin⟩ := sinDesborde_of_bloques (Nat.zero_lt_of_lt hbmenor)
    have hchunk := toNat_chunkDeBloque hbs hsin hbmenor
    have hfijo := fijo_swapLeerBloque m.swap (seg.swapBloqueInicio + b)
    unfold EnCadaBloque
    cases hleer : swapLeerBloque m.swap (seg.swapBloqueInicio + b) with
    | mk datos swap =>
      cases datos with
      | none => exact Iff.rfl
      | some datos =>
        rw [hleer] at hfijo
        have hdatos := (swapLeerBloque_archivo hleer).2 datos rfl
        have hlargo : datos.length = m.swap.blockSize.toNat := by
          rw [hdatos, ByteMemory.length_slice]
        have hmismo : swap.blockSize = m.swap.blockSize := Swap.fijo_blockSize hfijo
        have hcota := (cantidadBloques seg.limite m.swap.blockSize).toNat_lt
        have hsucc : (b + 1).toNat = b.toNat + 1 := by
          have huno : (1 : UInt32).toNat = 1 := rfl
          rw [toNat_add_of_lt (by omega), huno]
        apply and_congr
        · apply quedaEscrito_iff
          omega
        · apply ih
          simp only [hmismo]
          omega

theorem enCadaSegmento_iff (segmentos : List Segmento) (m : KernelMemory) :
    EnCadaSegmento QuedaEscrito segmentos m ↔ EnCadaSegmento RestoYaEsta segmentos m := by
  induction segmentos generalizing m with
  | nil => exact Iff.rfl
  | cons seg resto ih =>
    unfold EnCadaSegmento
    apply and_congr
    · apply enCadaBloque_iff
      rw [UInt32.toNat_zero, Nat.zero_add]
    · split
      · exact Iff.rfl
      · exact ih _

/-- Success is answered when the places are found and SWAP gives every block. -/
theorem confirma_reanudacion {m m' : KernelMemory} {pid : ℤ} {segmentos : List Segmento}
    (h : Coloca m pid segmentos m') :
    .ok .desSuspenderProceso ∈ (manejarDesSuspenderProceso m pid).1 ↔
      (leerSegmentos segmentos m.swap).isSome := by
  obtain ⟨proc, libres, hproc, hsocket, hreservar, rfl⟩ := h
  have hleidos := transferirSwapARam_leidos segmentos
    (ponerSegmentos { m with bloquesLibres := libres } pid segmentos)
  have hswap : (ponerSegmentos { m with bloquesLibres := libres } pid segmentos).swap = m.swap := rfl
  rw [hswap] at hleidos
  rw [← hleidos]
  unfold manejarDesSuspenderProceso desSuspenderProceso
  simp only [hproc, if_neg hsocket, hreservar]
  cases transferirSwapARam segmentos (ponerSegmentos { m with bloquesLibres := libres } pid segmentos) with
  | mk todo m' =>
    cases todo with
    | true => simp
    | false => simp

/-- The first block that comes back. -/
theorem ReanudacionCumplida.primero {m m' : KernelMemory} {pid : ℤ} {seg : Segmento}
    {resto : List Segmento} {bloques : ℕ} {datos : List UInt8} (h : ReanudacionCumplida m pid)
    (hcoloca : Coloca m pid (seg :: resto) m') (hleidos : (leerSegmentos (seg :: resto) m.swap).isSome)
    (hbloques : (cantidadBloques seg.limite m.swap.blockSize).toNat = bloques + 1)
    (hleer : (swapLeerBloque m.swap (seg.swapBloqueInicio + 0)).1 = some datos) :
    RestoYaEsta m.ram (seg.base + 0 * m.swap.blockSize)
      (chunkDeBloque seg.limite m.swap.blockSize 0) datos := by
  have hcumple := (h _ m' hcoloca hleidos).2
  obtain ⟨proc, libres, _, _, _, rfl⟩ := hcoloca
  have hbloque := hcumple.1
  have hswap : (ponerSegmentos { m with bloquesLibres := libres } pid (seg :: resto)).swap = m.swap := rfl
  rw [hswap, hbloques] at hbloque
  unfold EnCadaBloque at hbloque
  rw [hswap] at hbloque
  split at hbloque
  · rename_i hnada
    rw [hnada] at hleer
    cases hleer
  · rename_i hdatos
    rw [hdatos] at hleer
    obtain rfl := Option.some.inj hleer
    exact hbloque.1

theorem reanudacionVeraz_iff (m : KernelMemory) (pid : ℤ) :
    ReanudacionVeraz m pid ↔ ReanudacionCumplida m pid := by
  constructor
  · intro hveraz segmentos m' hcoloca hleidos
    obtain ⟨hbytes, hescritos⟩ := hveraz ((confirma_reanudacion hcoloca).mpr hleidos) segmentos m' hcoloca
    exact ⟨fun seg hseg ↦ (bytesEnBloques_eq_iff _ _).mp (hbytes seg hseg),
      (enCadaSegmento_iff segmentos m').mp hescritos⟩
  · intro hcumple hok segmentos m' hcoloca
    obtain ⟨hbytes, hescritos⟩ := hcumple segmentos m' hcoloca ((confirma_reanudacion hcoloca).mp hok)
    exact ⟨fun seg hseg ↦ (bytesEnBloques_eq_iff _ _).mpr (hbytes seg hseg),
      (enCadaSegmento_iff segmentos m').mpr hescritos⟩

/-! ## Compaction -/

/-- The bytes of the segment are at its new place. -/
def Copiado (ram : Ram) (oldBase limite cursor : UInt32) : Prop :=
  ∃ datos, lectura ram.tabla oldBase limite = .ok datos ∧
    lectura (copiarSegmento ram oldBase limite cursor).tabla cursor limite = .ok datos

/-- The bytes that are copied before the first failure, none when it is the read that fails. -/
def bytesCopiados (ram : Ram) (oldBase limite cursor : UInt32) : UInt32 :=
  match memoryIoLeer ram oldBase limite with
  | (.ok _, ram) => bytesEscritos ram cursor limite
  | (.error _, _) => 0

/-- The segment can be read where it is, and what was not copied was at the new place already. -/
def RestoYaCopiado (ram : Ram) (oldBase limite cursor : UInt32) : Prop :=
  ∃ datos, lectura ram.tabla oldBase limite = .ok datos ∧
    lectura ram.tabla (cursor + bytesCopiados ram oldBase limite cursor)
        (limite - bytesCopiados ram oldBase limite cursor) =
      .ok (datos.drop (bytesCopiados ram oldBase limite cursor).toNat)

/-- What is asked of every segment whose base the loop of `compactar_memoria` changes. -/
def EnCadaMudanza (P : Ram → UInt32 → UInt32 → UInt32 → Prop) :
    List SegEntrada → UInt32 → KernelMemory → Prop
  | [], _, _ => True
  | e :: resto, cursor, m =>
    (e.seg.base ≠ cursor → P m.ram e.seg.base e.seg.limite cursor) ∧
      EnCadaMudanza P resto (cursor + e.seg.limite) (moverSegmento m e cursor)

def CompactacionVeraz (qsort : Qsort) (m : KernelMemory) : Prop :=
  EnCadaMudanza Copiado (qsort.ordenar (entradas m.procesos)) 0 m

def CompactacionCumplida (qsort : Qsort) (m : KernelMemory) : Prop :=
  EnCadaMudanza RestoYaCopiado (qsort.ordenar (entradas m.procesos)) 0 m

theorem copiado_iff (ram : Ram) (oldBase limite cursor : UInt32) :
    Copiado ram oldBase limite cursor ↔ RestoYaCopiado ram oldBase limite cursor := by
  apply exists_congr
  intro datos
  apply and_congr_right
  intro hdatos
  have htabla := tabla_memoryIoLeer ram oldBase limite
  unfold copiarSegmento bytesCopiados
  cases hleer : memoryIoLeer ram oldBase limite with
  | mk fin despues =>
    rw [hleer] at htabla
    cases fin with
    | error fallo =>
      simp only [UInt32.add_zero, UInt32.sub_zero, UInt32.toNat_zero, List.drop_zero]
      rw [show despues.tabla = ram.tabla from htabla]
    | ok leidos =>
      obtain ⟨hleidos, hlargo⟩ := lectura_of_leer (Nat.le_refl _) hleer
      obtain rfl := Except.ok.inj (hdatos.symm.trans hleidos)
      have hiff := quedaEscrito_iff despues cursor (Nat.le_of_eq hlargo.symm)
      unfold QuedaEscrito RestoYaEsta at hiff
      rw [List.take_of_length_le (Nat.le_of_eq hlargo)] at hiff
      rw [show despues.tabla = ram.tabla from htabla] at hiff
      exact hiff

theorem enCadaMudanza_congr {P Q : Ram → UInt32 → UInt32 → UInt32 → Prop}
    (h : ∀ ram oldBase limite cursor, P ram oldBase limite cursor ↔ Q ram oldBase limite cursor)
    (lista : List SegEntrada) (cursor : UInt32) (m : KernelMemory) :
    EnCadaMudanza P lista cursor m ↔ EnCadaMudanza Q lista cursor m := by
  induction lista generalizing cursor m with
  | nil => exact Iff.rfl
  | cons e resto ih =>
    apply and_congr
    · rw [h]
    · exact ih _ _

theorem compactacionVeraz_iff (qsort : Qsort) (m : KernelMemory) :
    CompactacionVeraz qsort m ↔ CompactacionCumplida qsort m :=
  enCadaMudanza_congr copiado_iff _ 0 m

/-- What Kernel Memory tells of a write, a resumption and a compaction is true in exactly the states in which
everything that its writes leave undone was done before. -/
theorem confirmaciones_veraces_iff (qsort : Qsort) (m : KernelMemory) (pid : ℤ) (dir tamanio : UInt32)
    (datos : List UInt8) (hdatos : datos.length = tamanio.toNat) :
    (EscrituraVeraz m pid dir tamanio datos ↔ EscrituraCumplida m pid dir tamanio datos) ∧
      (ReanudacionVeraz m pid ↔ ReanudacionCumplida m pid) ∧
        (CompactacionVeraz qsort m ↔ CompactacionCumplida qsort m) :=
  ⟨escrituraVeraz_iff m pid dir hdatos, reanudacionVeraz_iff m pid, compactacionVeraz_iff qsort m⟩

/-! ## Broken connections -/

/-- Kernel Memory before the first stick registers; `cortes` are the requests that will break. -/
def memoriaConCortes (cortes : List Bool) : KernelMemory :=
  ⟨⟨16, none⟩, [], [], ⟨[], cortes, 0⟩, .desconectado⟩

/-- The state after some operations. -/
def KernelMemory.tras (m : KernelMemory) (ops : List Operacion) : KernelMemory :=
  ops.foldl (fun m op ↦ (atender .insercion m op).2) m

def stickDeOchoBytes : StickNuevo := ⟨1, 8, "", "", fun _ ↦ 0⟩

/-- A process with three bytes over two sticks, and nothing breaks. -/
def memoriaDosSticks : KernelMemory :=
  (memoriaConCortes []).tras [.registrarMemoryStick ⟨1, 2, "", "", fun _ ↦ 0⟩ 5,
    .registrarMemoryStick ⟨2, 6, "", "", fun _ ↦ 0⟩ 6, .crearProceso 1 [], .solicitarSegmento 1 0 3]

theorem procesos_memoriaDosSticks : procesosBuscar memoriaDosSticks.procesos 1 =
    some ⟨1, .cero, [⟨0, 0, 3, 0⟩], []⟩ := by
  decide +kernel

theorem confirmaciones_veraces_dosSticks : EscrituraVeraz memoriaDosSticks 1 0 3 [7, 8, 9] := by
  apply (confirmaciones_veraces_iff .insercion memoriaDosSticks 1 0 3 [7, 8, 9] rfl).1.mpr
  intro proc dirFisica hproc hdir _
  obtain rfl := Option.some.inj (procesos_memoriaDosSticks.symm.trans hproc)
  have hcero : traducirDirLogica memoriaDosSticks.config ⟨1, .cero, [⟨0, 0, 3, 0⟩], []⟩ 0 3 = some 0 := by
    decide +kernel
  obtain rfl := Option.some.inj (hcero.symm.trans hdir)
  unfold RestoYaEsta
  decide +kernel

/-- A process with three bytes; the first request to the stick breaks. -/
def memoriaEscritura : KernelMemory :=
  (memoriaConCortes [true]).tras [.registrarMemoryStick stickDeOchoBytes 5, .crearProceso 1 [],
    .solicitarSegmento 1 0 3]

theorem procesos_memoriaEscritura : procesosBuscar memoriaEscritura.procesos 1 =
    some ⟨1, .cero, [⟨0, 0, 3, 0⟩], []⟩ := by
  decide +kernel

/-- The process was suspended, another one has used its bytes, and the first block that comes back breaks. -/
def memoriaReanudacion : KernelMemory :=
  (memoriaConCortes [false, false, false, false, true]).tras
    [.registrarMemoryStick stickDeOchoBytes 5, .registrarSwap ⟨3, 2, 16, fun _ ↦ 0, [], configurado_ocho_bloques⟩,
      .crearProceso 1 [], .solicitarSegmento 1 0 3, .escrituraMemoria 1 0 3 [7, 8, 9],
      .suspenderProceso 1, .crearProceso 2 [], .solicitarSegmento 2 0 3,
      .escrituraMemoria 2 0 3 [1, 1, 1], .eliminarSegmento 2 0]

/-- The segment behind a hole is read, and the write to its new place breaks. -/
def memoriaCompactacion : KernelMemory :=
  (memoriaConCortes [false, false, true]).tras
    [.registrarMemoryStick stickDeOchoBytes 5, .crearProceso 1 [], .crearProceso 2 [],
      .solicitarSegmento 1 0 3, .solicitarSegmento 2 0 3, .escrituraMemoria 2 0 3 [7, 8, 9],
      .eliminarSegmento 1 0]

theorem escritura_no_veraz : ¬ EscrituraVeraz memoriaEscritura 1 0 3 [7, 8, 9] := by
  rw [escrituraVeraz_iff memoriaEscritura 1 0 rfl]
  intro h
  have hdir : traducirDirLogica memoriaEscritura.config ⟨1, .cero, [⟨0, 0, 3, 0⟩], []⟩ 0 3 = some 0 := by
    decide +kernel
  have hresto := h _ _ procesos_memoriaEscritura hdir (by decide)
  revert hresto
  unfold RestoYaEsta
  decide +kernel

theorem reanudacion_no_veraz : ¬ ReanudacionVeraz memoriaReanudacion 1 := by
  rw [reanudacionVeraz_iff]
  intro h
  have hproc : procesosBuscar memoriaReanudacion.procesos 1 =
      some ⟨1, .cero, [⟨0, sinBase, 3, 0⟩], []⟩ := by
    decide +kernel
  have hreservar : reservarSegmentosConRollback memoriaReanudacion.config.worstFit
      [⟨0, sinBase, 3, 0⟩] memoriaReanudacion.bloquesLibres = (some [⟨0, 0, 3, 0⟩], [⟨3, 5⟩]) := by
    decide +kernel
  have hleidos : (leerSegmentos [⟨0, 0, 3, 0⟩] memoriaReanudacion.swap).isSome := by
    decide +kernel
  have hbloques : (cantidadBloques 3 memoriaReanudacion.swap.blockSize).toNat = 1 + 1 := by
    decide +kernel
  have hbloque : (swapLeerBloque memoriaReanudacion.swap (0 + 0)).1 = some [7, 8] := by
    decide +kernel
  have hsocket : ¬ memoriaReanudacion.swap.socket < 0 := by
    decide +kernel
  have hresto := h.primero ⟨_, _, hproc, hsocket, hreservar, rfl⟩ hleidos hbloques hbloque
  revert hresto
  unfold RestoYaEsta
  decide +kernel

theorem compactacion_no_veraz : ¬ CompactacionVeraz .insercion memoriaCompactacion := by
  rw [compactacionVeraz_iff]
  have hentradas : Qsort.insercion.ordenar (entradas memoriaCompactacion.procesos) =
      [⟨1, 0, ⟨0, 3, 3, 0⟩⟩] := by
    decide +kernel
  unfold CompactacionCumplida
  rw [hentradas]
  intro h
  obtain ⟨datos, hdatos, hresto⟩ := h.1 (by decide)
  have hleido : lectura memoriaCompactacion.ram.tabla 3 3 = .ok [7, 8, 9] := by
    decide +kernel
  obtain rfl := Except.ok.inj (hdatos.symm.trans hleido)
  revert hresto
  decide +kernel

/-- One broken request each: `OK` for a write that is lost, success for a process whose bytes stay in SWAP,
and a segment at a place that holds other bytes. -/
theorem confirmaciones_no_veraces : ¬ EscrituraVeraz memoriaEscritura 1 0 3 [7, 8, 9] ∧
    ¬ ReanudacionVeraz memoriaReanudacion 1 ∧ ¬ CompactacionVeraz .insercion memoriaCompactacion :=
  ⟨escritura_no_veraz, reanudacion_no_veraz, compactacion_no_veraz⟩

end PlugAndPlay.Memoria
