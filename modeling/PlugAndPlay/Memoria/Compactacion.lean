import PlugAndPlay.Library.ListModify
import PlugAndPlay.Library.Packing
import PlugAndPlay.Memoria.Estado

/-!
# Compaction

`memory_compactacion.c`: the resident segments of all processes, in the order `qsort` puts them by
base, slide one by one to the start of RAM, and the free list is rebuilt as the block behind them.
A segment is named by the position of its process and its position in the table, as the source
names it by a pointer. The results hold for every permutation sorted by base, which is all that is
known of `qsort`, and for every layout of reachable sticks.
-/

open PlugAndPlay.Library

namespace PlugAndPlay.Memoria

/-! ## The code -/

/-- `t_seg_entrada`: the segment, and where it is. -/
structure SegEntrada where
  proc : ℕ
  idx : ℕ
  seg : Segmento
deriving Repr, DecidableEq

/-- The first two loops of `compactar_memoria`: the resident segments in table order. -/
def entradas (procesos : List Proceso) : List SegEntrada :=
  procesos.zipIdx.flatMap fun (p, i) ↦ p.segmentos.zipIdx.filterMap fun (s, j) ↦
    if s.Residente then some ⟨i, j, s⟩ else none

/-- `qsort` with `comparar_seg_por_base`: some permutation in the order of the bases. It need not
be stable. -/
structure Qsort where
  ordenar : List SegEntrada → List SegEntrada
  perm : ∀ lista, (ordenar lista).Perm lista
  ordenada : ∀ lista, (ordenar lista).Pairwise fun a b ↦ a.seg.base ≤ b.seg.base

/-- `seg->base = base` for the segment at a position. -/
def ponerBase (procesos : List Proceso) (proc idx : ℕ) (base : UInt32) : List Proceso :=
  procesos.modify proc fun p ↦
    { p with segmentos := p.segmentos.modify idx fun s ↦ { s with base := base } }

/-- The copy of one segment; what `memory_io_escribir` returns is not looked at. -/
def copiarSegmento (ram : Ram) (oldBase limite cursor : UInt32) : Ram :=
  match memoryIoLeer ram oldBase limite with
  | (.ok datos, ram) => (memoryIoEscribir ram cursor limite datos).2
  | (.error _, ram) => ram

/-- The body of the loop over the sorted segments. -/
def moverSegmento (m : KernelMemory) (e : SegEntrada) (cursor : UInt32) : KernelMemory :=
  if e.seg.base = cursor then m
  else
    { m with
      ram := copiarSegmento m.ram e.seg.base e.seg.limite cursor
      procesos := ponerBase m.procesos e.proc e.idx cursor }

/-- The loop over the sorted segments: the final cursor and what was moved. -/
def compactarEntradas : List SegEntrada → UInt32 → KernelMemory → UInt32 × KernelMemory
  | [], cursor, m => (cursor, m)
  | e :: resto, cursor, m =>
    compactarEntradas resto (cursor + e.seg.limite) (moverSegmento m e cursor)

/-- The end of `compactar_memoria`: the free list is the block from the cursor to the end of RAM. -/
def libresTrasCompactar (tabla : List MemoryStick) (cursor : UInt32) : List BloqueLibre :=
  let totalRam := conexionesTamanioTotalRam tabla
  bloquesResetAUnico cursor (if totalRam > cursor then totalRam - cursor else 0)

/-- `compactar_memoria`. -/
def compactarMemoria (qsort : Qsort) (m : KernelMemory) : KernelMemory :=
  let totalSegs := (m.procesos.map fun p ↦ p.segmentos.length).sum
  if totalSegs = 0 then m
  else
    let entradas := entradas m.procesos
    if entradas = [] then
      { m with bloquesLibres := bloquesResetAUnico 0 (conexionesTamanioTotalRam m.ram.tabla) }
    else
      let (cursor, m) := compactarEntradas (qsort.ordenar entradas) 0 m
      { m with bloquesLibres := libresTrasCompactar m.ram.tabla cursor }

/-! ## Positions of segments -/

/-- The segment at a position. -/
def segmentoEn (procesos : List Proceso) (proc idx : ℕ) : Option Segmento :=
  procesos[proc]?.bind fun p ↦ p.segmentos[idx]?

theorem segmentoEn_ponerBase (procesos : List Proceso) (proc idx proc' idx' : ℕ) (base : UInt32) :
    segmentoEn (ponerBase procesos proc idx base) proc' idx' =
      if proc = proc' ∧ idx = idx' then
        (segmentoEn procesos proc' idx').map fun s ↦ { s with base := base }
      else segmentoEn procesos proc' idx' := by
  unfold segmentoEn ponerBase
  rw [List.getElem?_modify]
  by_cases hproc : proc = proc'
  · cases hp : procesos[proc']? with
    | none => simp
    | some p =>
      by_cases hidx : idx = idx' <;> simp [hproc, hidx]
  · cases hp : procesos[proc']? with
    | none => simp [hproc]
    | some p => simp [hproc]

theorem mem_entradas {procesos : List Proceso} {e : SegEntrada} :
    e ∈ entradas procesos ↔ segmentoEn procesos e.proc e.idx = some e.seg ∧ e.seg.Residente := by
  simp only [entradas, List.mem_flatMap, List.mem_filterMap, Prod.exists,
    List.mk_mem_zipIdx_iff_getElem?, segmentoEn]
  constructor
  · rintro ⟨p, i, hp, s, j, hs, hres⟩
    split at hres
    · rename_i hr
      obtain rfl := Option.some.inj hres
      exact ⟨by rw [hp]; exact hs, hr⟩
    · cases hres
  · rintro ⟨hget, hr⟩
    obtain ⟨p, hp, hs⟩ := Option.bind_eq_some_iff.mp hget
    exact ⟨p, e.proc, hp, e.seg, e.idx, hs, by rw [if_pos hr]⟩

/-- Two entries do not name the same position. -/
theorem entradas_posiciones (procesos : List Proceso) :
    (entradas procesos).Pairwise fun a b ↦ ¬ (a.proc = b.proc ∧ a.idx = b.idx) := by
  have hzip : ∀ {α : Type} (l : List α), l.zipIdx.Pairwise fun x y ↦ x.2 < y.2 := by
    intro α l
    have hidx : (l.zipIdx.map Prod.snd).Pairwise (· < ·) := by
      rw [List.zipIdx_map_snd]
      exact List.pairwise_lt_range'
    exact List.pairwise_map.mp hidx
  refine List.pairwise_flatMap.mpr ⟨fun (p, i) _ ↦ ?_, ?_⟩
  · refine List.pairwise_filterMap.mpr ((hzip p.segmentos).imp fun {x y} hlt a ha b hb hab ↦ ?_)
    simp only [Option.ite_none_right_eq_some, Option.some.injEq] at ha hb
    rw [← ha.2, ← hb.2] at hab
    exact absurd hab.2 (by simpa using hlt.ne)
  · refine (hzip procesos).imp fun {x y} hlt a ha b hb hab ↦ ?_
    obtain ⟨_, _, ha⟩ := List.mem_filterMap.mp ha
    obtain ⟨_, _, hb⟩ := List.mem_filterMap.mp hb
    simp only [Option.ite_none_right_eq_some, Option.some.injEq] at ha hb
    rw [← ha.2, ← hb.2] at hab
    exact absurd hab.1 hlt.ne

/-- The ranges of the entries. -/
def rangosEntradas (lista : List SegEntrada) : List ByteRange := lista.map fun e ↦ e.seg.rango

theorem rangosEntradas_entradas (procesos : List Proceso) :
    rangosEntradas (entradas procesos) = rangosResidentes procesos := by
  have hfst : ∀ {α β : Type} (l : List α) (f : α → List β),
      l.zipIdx.flatMap (fun x ↦ f x.1) = l.flatMap f := by
    intro α β l f
    rw [← List.flatMap_map, List.zipIdx_map_fst]
  have hsegs : ∀ (segmentos : List Segmento) (i : ℕ),
      (segmentos.zipIdx.filterMap fun (s, j) ↦
        if s.Residente then some (⟨i, j, s⟩ : SegEntrada) else none).map (fun e ↦ e.seg.rango) =
        rangosSegmentos segmentos := by
    intro segmentos i
    calc _ = segmentos.zipIdx.filterMap
            (fun x ↦ (if x.1.Residente then some x.1 else none).map Segmento.rango) := by
          rw [List.map_filterMap]
          apply List.filterMap_congr
          rintro ⟨s, j⟩ _
          by_cases h : s.Residente <;> simp [h]
      _ = (segmentos.zipIdx.map Prod.fst).filterMap
            (fun s ↦ (if s.Residente then some s else none).map Segmento.rango) := by
          rw [List.filterMap_map]
          rfl
      _ = rangosSegmentos segmentos := by
          rw [List.zipIdx_map_fst, rangosSegmentos, ← List.filterMap_eq_map,
            List.filterMap_filter]
          apply List.filterMap_congr
          intro s _
          by_cases h : s.Residente <;> simp [h]
  rw [rangosEntradas, entradas, List.map_flatMap]
  simp only [hsegs]
  exact hfst procesos fun p ↦ rangosSegmentos p.segmentos

/-! ## Moving one segment -/

/-- The process without the bases of its segments. -/
def Proceso.sinBases (p : Proceso) : Proceso :=
  { p with segmentos := p.segmentos.map fun s ↦ { s with base := 0 } }

@[simp] theorem Proceso.pid_sinBases (p : Proceso) : p.sinBases.pid = p.pid := rfl

theorem sinBases_ponerBase (procesos : List Proceso) (proc idx : ℕ) (base : UInt32) :
    (ponerBase procesos proc idx base).map Proceso.sinBases = procesos.map Proceso.sinBases := by
  refine ListModify.map_modify_of_forall procesos proc _ _ fun p ↦ ?_
  have hsegs := ListModify.map_modify_of_forall p.segmentos idx
    (fun s ↦ { s with base := base }) (fun s ↦ { s with base := 0 }) fun _ ↦ rfl
  simp only [Proceso.sinBases, hsegs]

/-- Giving a segment the base it has changes nothing. -/
theorem ponerBase_self {procesos : List Proceso} {proc idx : ℕ} {seg : Segmento}
    (h : segmentoEn procesos proc idx = some seg) :
    ponerBase procesos proc idx seg.base = procesos := by
  obtain ⟨p, hp, hs⟩ := Option.bind_eq_some_iff.mp h
  obtain ⟨antes, despues, heq, hmod⟩ := ListModify.modify_split hp
  obtain ⟨antesSeg, despuesSeg, heqSeg, hmodSeg⟩ := ListModify.modify_split hs
  have hp' : ({ p with segmentos := antesSeg ++ seg :: despuesSeg } : Proceso) = p := by
    rw [← heqSeg]
  rw [ponerBase, hmod, hmodSeg, hp', ← heq]

/-- Moving one segment exchanges its old range for its new one. -/
theorem hits_ponerBase {procesos : List Proceso} {proc idx : ℕ} {seg : Segmento}
    (h : segmentoEn procesos proc idx = some seg) (base : UInt32) (address : ℕ) :
    ByteRange.hits (rangosResidentes (ponerBase procesos proc idx base)) address +
        ByteRange.hits (rangosSegmentos [seg]) address =
      ByteRange.hits (rangosResidentes procesos) address +
        ByteRange.hits (rangosSegmentos [{ seg with base := base }]) address := by
  obtain ⟨p, hp, hs⟩ := Option.bind_eq_some_iff.mp h
  obtain ⟨antes, despues, heq, hmod⟩ := ListModify.modify_split hp
  obtain ⟨antesSeg, despuesSeg, heqSeg, hmodSeg⟩ := ListModify.modify_split hs
  rw [ponerBase, hmod, hmodSeg, heq]
  simp only [rangosResidentes_append, rangosResidentes_cons, heqSeg, rangosSegmentos_append,
    rangosSegmentos_cons, rangosSegmentos_nil, List.append_nil, ByteRange.hits_append]
  omega

theorem moverSegmento_eq {m : KernelMemory} {e : SegEntrada} {cursor : UInt32}
    (h : segmentoEn m.procesos e.proc e.idx = some e.seg) :
    moverSegmento m e cursor =
      { m with
        ram := if e.seg.base = cursor then m.ram
          else copiarSegmento m.ram e.seg.base e.seg.limite cursor
        procesos := ponerBase m.procesos e.proc e.idx cursor } := by
  unfold moverSegmento
  split
  · rename_i hbase
    rw [← hbase, ponerBase_self h]
  · rfl

theorem mismaTabla_copiarSegmento (ram : Ram) (oldBase limite cursor : UInt32) :
    MismaTabla (copiarSegmento ram oldBase limite cursor).tabla ram.tabla := by
  have htabla := tabla_memoryIoLeer ram oldBase limite
  unfold copiarSegmento
  split
  · rename_i hleer
    rw [hleer] at htabla
    rw [← htabla]
    exact mismaTabla_memoryIoEscribir _ _ _ _
  · rename_i hleer
    rw [hleer] at htabla
    rw [← htabla]
    exact MismaTabla.refl _

/-- Without failures, the copy of one segment is one move of the flat memory. -/
theorem copiarSegmento_escrita {ram : Ram} (h : ram.Sana) {oldBase limite cursor : UInt32}
    (hviejo : oldBase.toNat + limite.toNat ≤ ram.total)
    (hnuevo : cursor.toNat + limite.toNat ≤ ram.total) :
    ram.Escrita (if oldBase = cursor then ram else copiarSegmento ram oldBase limite cursor)
      (ByteMemory.overlay (plano ram.tabla) cursor.toNat
        (ByteMemory.slice (plano ram.tabla) oldBase.toNat limite.toNat)) := by
  split
  · rename_i hbase
    subst hbase
    refine ⟨MismaTabla.refl _, rfl, fun address ↦ ?_⟩
    rw [Packing.overlay_slice_self]
  · have hlen : limite.toNat ≤
        (ByteMemory.slice (plano ram.tabla) oldBase.toNat limite.toNat).length :=
      ByteMemory.length_slice.ge
    obtain ⟨despues, heq, hescrita⟩ := memoryIoEscribir_plano h hnuevo hlen
    rw [List.take_of_length_le ByteMemory.length_slice.le] at hescrita
    simp only [copiarSegmento, memoryIoLeer_plano h hviejo, heq]
    exact hescrita

/-! ## The loop -/

/-- What the loop did to the tables, when it started at `cursor` and whatever became of the copies:
every entry got the place behind the entries before it, and nothing else was touched. -/
structure Compactadas (m : KernelMemory) (lista : List SegEntrada) (cursor : UInt32)
    (fin : UInt32) (m' : KernelMemory) : Prop where
  fin_eq : fin.toNat = cursor.toNat + Packing.totalSize (rangosEntradas lista)
  mismaTabla : MismaTabla m'.ram.tabla m.ram.tabla
  tablas : m'.procesos.map Proceso.sinBases = m.procesos.map Proceso.sinBases
  otros : ∀ proc idx, (∀ e ∈ lista, ¬ (e.proc = proc ∧ e.idx = idx)) →
    segmentoEn m'.procesos proc idx = segmentoEn m.procesos proc idx
  lugar : ∀ antes e despues, lista = antes ++ e :: despues →
    ∃ base : UInt32, base.toNat = cursor.toNat + Packing.totalSize (rangosEntradas antes) ∧
      segmentoEn m'.procesos e.proc e.idx = some { e.seg with base := base }
  hits : ∀ address, ByteRange.hits (rangosResidentes m'.procesos) address +
      ByteRange.hits (rangosEntradas lista) address =
    ByteRange.hits (rangosResidentes m.procesos) address +
      ByteRange.hits [⟨cursor.toNat, Packing.totalSize (rangosEntradas lista)⟩] address
  config : m'.config = m.config
  libres : m'.bloquesLibres = m.bloquesLibres
  swap : m'.swap = m.swap

/-- The list of entries that the loop starts from at a cursor. -/
structure Ordenadas (m : KernelMemory) (lista : List SegEntrada) (cursor top : ℕ) : Prop where
  segs : ∀ e ∈ lista, segmentoEn m.procesos e.proc e.idx = some e.seg
  posiciones : lista.Pairwise fun a b ↦ ¬ (a.proc = b.proc ∧ a.idx = b.idx)
  ascending : Packing.Ascending (rangosEntradas lista)
  above : Packing.Above cursor (rangosEntradas lista)
  within : ByteRange.Within (rangosEntradas lista) top
  cursor_le : cursor ≤ top
  top_lt : top < 2 ^ 32

section Ordenadas

variable {m : KernelMemory} {e : SegEntrada} {resto : List SegEntrada} {cursor : UInt32} {top : ℕ}

theorem hits_rangosSegmentos_singleton {seg : Segmento} (htop : top < 2 ^ 32)
    (h : seg.base.toNat + seg.limite.toNat ≤ top) (address : ℕ) :
    ByteRange.hits (rangosSegmentos [seg]) address = ByteRange.hits [seg.rango] address := by
  rw [hits_rangosSegmentos_cons htop h]
  rfl

/-- The first entry fits where it is and where it goes. -/
theorem Ordenadas.cabe (h : Ordenadas m (e :: resto) cursor.toNat top) :
    e.seg.base.toNat + e.seg.limite.toNat ≤ top ∧
      cursor.toNat + e.seg.limite.toNat + Packing.totalSize (rangosEntradas resto) ≤ top := by
  have hsize := Packing.totalSize_le h.ascending h.above h.within h.cursor_le
  refine ⟨(ByteRange.within_cons.mp h.within).1, ?_⟩
  rw [rangosEntradas, List.map_cons, Packing.totalSize_cons] at hsize
  simp only [rangosEntradas, Segmento.rango] at hsize ⊢
  omega

theorem Ordenadas.toNat_cursor (h : Ordenadas m (e :: resto) cursor.toNat top) :
    (cursor + e.seg.limite).toNat = cursor.toNat + e.seg.limite.toNat := by
  have := h.cabe.2
  have := h.top_lt
  exact toNat_add_of_lt (by omega)

/-- After the first entry moved, the others are ready from the next cursor on. -/
theorem Ordenadas.paso (h : Ordenadas m (e :: resto) cursor.toNat top) :
    Ordenadas (moverSegmento m e cursor) resto (cursor + e.seg.limite).toNat top where
  segs e' he' := by
    rw [moverSegmento_eq (h.segs e List.mem_cons_self), segmentoEn_ponerBase,
      if_neg ((List.pairwise_cons.mp h.posiciones).1 e' he')]
    exact h.segs e' (List.mem_cons_of_mem _ he')
  posiciones := h.posiciones.of_cons
  ascending := h.ascending.of_cons
  above := by
    rw [h.toNat_cursor]
    exact h.above.step h.ascending
  within := (ByteRange.within_cons.mp h.within).2
  cursor_le := by
    rw [h.toNat_cursor]
    have := h.cabe.2
    omega
  top_lt := h.top_lt

/-- Without failures, the move of the first entry is one of the flat memory. -/
theorem Ordenadas.escrita (h : Ordenadas m (e :: resto) cursor.toNat m.ram.total) (hsana : m.ram.Sana) :
    m.ram.Escrita (moverSegmento m e cursor).ram
      (ByteMemory.overlay (plano m.ram.tabla) cursor.toNat
        (ByteMemory.slice (plano m.ram.tabla) e.seg.base.toNat e.seg.limite.toNat)) := by
  obtain ⟨hfin, hcabe⟩ := h.cabe
  rw [moverSegmento_eq (h.segs e List.mem_cons_self)]
  exact copiarSegmento_escrita hsana hfin (by omega)

end Ordenadas

theorem compactarEntradas_compactadas (lista : List SegEntrada) (cursor : UInt32)
    {m : KernelMemory} {top : ℕ} (h : Ordenadas m lista cursor.toNat top) :
    Compactadas m lista cursor (compactarEntradas lista cursor m).1
      (compactarEntradas lista cursor m).2 := by
  induction lista generalizing cursor m with
  | nil =>
    exact
      { fin_eq := rfl
        mismaTabla := MismaTabla.refl _
        tablas := rfl
        otros := fun _ _ _ ↦ rfl
        lugar := fun antes e despues h ↦ by simp at h
        hits := fun address ↦ by simp [rangosEntradas, compactarEntradas]
        config := rfl
        libres := rfl
        swap := rfl }
  | cons e resto ih =>
    have he := h.segs e List.mem_cons_self
    have hposE := (List.pairwise_cons.mp h.posiciones).1
    have hcursor := h.toNat_cursor
    obtain ⟨hfin, hcabe⟩ := h.cabe
    have hrango : rangosEntradas (e :: resto) = e.seg.rango :: rangosEntradas resto := rfl
    have hlimite : e.seg.rango.size = e.seg.limite.toNat := rfl
    -- the first segment moves to the cursor, the rest is the induction hypothesis
    have hresto := ih (cursor + e.seg.limite) h.paso
    obtain ⟨medio, hmedio⟩ : ∃ medio, medio = moverSegmento m e cursor := ⟨_, rfl⟩
    have hpaso : compactarEntradas (e :: resto) cursor m =
        compactarEntradas resto (cursor + e.seg.limite) medio := by
      rw [hmedio]
      rfl
    rw [← hmedio] at hresto
    rw [hpaso]
    rw [moverSegmento_eq he] at hmedio
    have hprocesos : medio.procesos = ponerBase m.procesos e.proc e.idx cursor := by rw [hmedio]
    exact
      { fin_eq := by
          have := hresto.fin_eq
          rw [hrango, Packing.totalSize_cons]
          omega
        mismaTabla := by
          refine hresto.mismaTabla.trans ?_
          rw [hmedio]
          simp only
          split
          · exact MismaTabla.refl _
          · exact mismaTabla_copiarSegmento _ _ _ _
        tablas := by
          have := hresto.tablas
          rw [hprocesos, sinBases_ponerBase] at this
          exact this
        otros := by
          intro proc idx hno
          have := hresto.otros proc idx fun e' he' ↦ hno e' (List.mem_cons_of_mem _ he')
          rw [hprocesos, segmentoEn_ponerBase, if_neg (hno e List.mem_cons_self)] at this
          exact this
        lugar := by
          intro antes e' despues h
          cases antes with
          | nil =>
            obtain ⟨rfl, rfl⟩ := List.cons.inj h
            refine ⟨cursor, rfl, ?_⟩
            have := hresto.otros e.proc e.idx fun e' he' hsame ↦
              hposE e' he' ⟨hsame.1.symm, hsame.2.symm⟩
            rw [hprocesos, segmentoEn_ponerBase, if_pos ⟨rfl, rfl⟩, he] at this
            exact this
          | cons primero antes =>
            obtain ⟨rfl, hcola⟩ := List.cons.inj h
            obtain ⟨base, hbase, hget⟩ := hresto.lugar antes e' despues hcola
            refine ⟨base, ?_, hget⟩
            have : rangosEntradas (e :: antes) = e.seg.rango :: rangosEntradas antes := rfl
            rw [this, Packing.totalSize_cons]
            omega
        hits := by
          intro address
          have hcola := hresto.hits address
          have hmov := hits_ponerBase he cursor address
          have hnuevo : cursor.toNat + e.seg.limite.toNat ≤ top := by omega
          rw [hits_rangosSegmentos_singleton h.top_lt hfin,
            hits_rangosSegmentos_singleton h.top_lt hnuevo] at hmov
          rw [hprocesos] at hcola
          rw [hrango, Packing.totalSize_cons, ByteRange.hits_split (Nat.le_add_right _ _)]
          simp only [ByteRange.hits_cons, ByteRange.hits_nil, hcursor, Nat.add_sub_cancel_left,
            Segmento.rango] at hcola hmov ⊢
          omega
        config := hresto.config.trans (by rw [hmedio])
        libres := hresto.libres.trans (by rw [hmedio])
        swap := hresto.swap.trans (by rw [hmedio]) }

/-- Without failures, the loop packs the flat memory. -/
theorem compactarEntradas_escrita (lista : List SegEntrada) (cursor : UInt32) {m : KernelMemory}
    (hsana : m.ram.Sana) (h : Ordenadas m lista cursor.toNat m.ram.total) :
    m.ram.Escrita (compactarEntradas lista cursor m).2.ram
      (Packing.pack (plano m.ram.tabla) cursor.toNat (rangosEntradas lista)) := by
  induction lista generalizing cursor m with
  | nil => exact ⟨MismaTabla.refl _, rfl, fun _ ↦ rfl⟩
  | cons e resto ih =>
    have hram := h.escrita hsana
    have hpaso := h.paso
    rw [← hram.total] at hpaso
    have hresto := ih (cursor + e.seg.limite) (hram.sana hsana) hpaso
    rw [h.toNat_cursor, funext hram.plano] at hresto
    exact hram.trans hresto

end PlugAndPlay.Memoria
