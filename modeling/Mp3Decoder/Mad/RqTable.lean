import Mathlib.Algebra.Group.Nat.Defs
import Mathlib.Data.List.Chain
import Mathlib.Data.Nat.Notation

/-!
# The table for requantization (`rq_table.dat`)

`rq_table[x]` is `x^(4/3)` as a mantissa with an exponent.  The entries come in the order of `x`;
neighbours with the same exponent are kept in one list.  The mantissas are normalized, and the
numbers ascend.
-/

namespace Mp3Decoder

def rqMantissas0 : List ℕ := [
  0x00000000]

def rqMantissas2 : List ℕ := [
  0x04000000]

def rqMantissas3 : List ℕ := [
  0x050a28be]

def rqMantissas4 : List ℕ := [
  0x0453a5cd, 0x06597fa9]

def rqMantissas5 : List ℕ := [
  0x04466275, 0x05738c72, 0x06b1fc81]

def rqMantissas6 : List ℕ := [
  0x04000000, 0x04ae20d7, 0x0562d694, 0x061dae96, 0x06de47f4, 0x07a44f7a]

def rqMantissas7 : List ℕ := [
  0x0437be65, 0x049fc824, 0x050a28be, 0x0576c6f5, 0x05e58c0b, 0x06566361, 0x06c93a2e, 0x073dff3e,
  0x07b4a2bc]

def rqMantissas8 : List ℕ := [
  0x04168b05, 0x0453a5cd, 0x04919b6a, 0x04d065fb, 0x05100000, 0x05506451, 0x05918e15, 0x05d378bb,
  0x06161ff3, 0x06597fa9, 0x069d9400, 0x06e2594c, 0x0727cc11, 0x076de8fc, 0x07b4ace3, 0x07fc14bf]

def rqMantissas9 : List ℕ := [
  0x04220ed7, 0x04466275, 0x046b03e7, 0x048ff1e8, 0x04b52b3f, 0x04daaec0, 0x05007b49, 0x05268fc6,
  0x054ceb2a, 0x05738c72, 0x059a72a5, 0x05c19cd3, 0x05e90a12, 0x0610b982, 0x0638aa48, 0x0660db91,
  0x06894c90, 0x06b1fc81, 0x06daeaa1, 0x07041636, 0x072d7e8b, 0x075722ef, 0x078102b8, 0x07ab1d3e,
  0x07d571e0]

def rqMantissas10 : List ℕ := [
  0x04000000, 0x04156381, 0x042ae32a, 0x04407eb1, 0x045635cf, 0x046c083e, 0x0481f5bb, 0x0497fe03,
  0x04ae20d7, 0x04c45df6, 0x04dab524, 0x04f12624, 0x0507b0bc, 0x051e54b1, 0x053511cb, 0x054be7d4,
  0x0562d694, 0x0579ddd8, 0x0590fd6c, 0x05a8351c, 0x05bf84b8, 0x05d6ec0e, 0x05ee6aef, 0x0606012b,
  0x061dae96, 0x06357302, 0x064d4e43, 0x0665402d, 0x067d4896, 0x06956753, 0x06ad9c3d, 0x06c5e72b,
  0x06de47f4, 0x06f6be73, 0x070f4a80, 0x0727ebf7, 0x0740a2b2, 0x07596e8d, 0x07724f64, 0x078b4514,
  0x07a44f7a, 0x07bd6e75, 0x07d6a1e2, 0x07efe9a1]

def rqMantissas11 : List ℕ := [
  0x0404a2c9, 0x04115aca, 0x041e1cc4, 0x042ae8a7, 0x0437be65, 0x04449dee, 0x04518733, 0x045e7a26,
  0x046b76b9, 0x04787cdc, 0x04858c83, 0x0492a59f, 0x049fc824, 0x04acf402, 0x04ba292e, 0x04c7679a,
  0x04d4af3a, 0x04e20000, 0x04ef59e0, 0x04fcbcce, 0x050a28be, 0x05179da4, 0x05251b73, 0x0532a220,
  0x054031a0, 0x054dc9e7, 0x055b6ae9, 0x0569149c, 0x0576c6f5, 0x058481e9, 0x0592456d, 0x05a01176,
  0x05ade5fa, 0x05bbc2ef, 0x05c9a84a, 0x05d79601, 0x05e58c0b, 0x05f38a5d, 0x060190ee, 0x060f9fb3,
  0x061db6a5, 0x062bd5b8, 0x0639fce4, 0x06482c1f, 0x06566361, 0x0664a2a0, 0x0672e9d4, 0x068138f3,
  0x068f8ff5, 0x069deed1, 0x06ac557f, 0x06bac3f6, 0x06c93a2e, 0x06d7b81f, 0x06e63dc0, 0x06f4cb09,
  0x07035ff3, 0x0711fc75, 0x0720a087, 0x072f4c22, 0x073dff3e, 0x074cb9d3, 0x075b7bdb, 0x076a454c,
  0x07791620, 0x0787ee50, 0x0796cdd4, 0x07a5b4a5, 0x07b4a2bc, 0x07c39812, 0x07d294a0, 0x07e1985f,
  0x07f0a348, 0x07ffb554]

def rqMantissas12 : List ℕ := [
  0x0407673f, 0x040ef75e, 0x04168b05, 0x041e2230, 0x0425bcdd, 0x042d5b07, 0x0434fcad, 0x043ca1c9,
  0x04444a5a, 0x044bf65d, 0x0453a5cd, 0x045b58a9, 0x04630eed, 0x046ac896, 0x047285a2, 0x047a460c,
  0x048209d3, 0x0489d0f4, 0x04919b6a, 0x04996935, 0x04a13a50, 0x04a90eba, 0x04b0e66e, 0x04b8c16c,
  0x04c09faf, 0x04c88135, 0x04d065fb, 0x04d84dff, 0x04e0393e, 0x04e827b6, 0x04f01963, 0x04f80e44,
  0x05000655, 0x05080195, 0x05100000, 0x05180194, 0x0520064f, 0x05280e2d, 0x0530192e, 0x0538274e,
  0x0540388a, 0x05484ce2, 0x05506451, 0x05587ed5, 0x05609c6e, 0x0568bd17, 0x0570e0cf, 0x05790793,
  0x05813162, 0x05895e39, 0x05918e15, 0x0599c0f4, 0x05a1f6d5, 0x05aa2fb5, 0x05b26b92, 0x05baaa69,
  0x05c2ec39, 0x05cb3100, 0x05d378bb, 0x05dbc368, 0x05e41105, 0x05ec6190, 0x05f4b507, 0x05fd0b68,
  0x060564b1, 0x060dc0e0, 0x06161ff3, 0x061e81e8, 0x0626e6bc, 0x062f4e6f, 0x0637b8fd, 0x06402666,
  0x064896a7, 0x065109be, 0x06597fa9, 0x0661f867, 0x066a73f5, 0x0672f252, 0x067b737c, 0x0683f771,
  0x068c7e2f, 0x069507b5, 0x069d9400, 0x06a6230f, 0x06aeb4e0, 0x06b74971, 0x06bfe0c0, 0x06c87acc,
  0x06d11794, 0x06d9b714, 0x06e2594c, 0x06eafe3a, 0x06f3a5dc, 0x06fc5030, 0x0704fd35, 0x070dacea,
  0x07165f4b, 0x071f1459, 0x0727cc11, 0x07308671, 0x07394378, 0x07420325, 0x074ac575, 0x07538a67,
  0x075c51fa, 0x07651c2c, 0x076de8fc, 0x0776b867, 0x077f8a6d, 0x07885f0b, 0x07913641, 0x079a100c,
  0x07a2ec6c, 0x07abcb5f, 0x07b4ace3, 0x07bd90f6, 0x07c67798, 0x07cf60c7, 0x07d84c81, 0x07e13ac5,
  0x07ea2b92, 0x07f31ee6, 0x07fc14bf]

def rqMantissas13 : List ℕ := [
  0x0402868e, 0x040703ff, 0x040b82b0, 0x041002a1, 0x041483d1, 0x04190640, 0x041d89ed, 0x04220ed7,
  0x042694fe, 0x042b1c60, 0x042fa4fe, 0x04342ed7, 0x0438b9e9, 0x043d4635, 0x0441d3b9, 0x04466275,
  0x044af269, 0x044f8393, 0x045415f3, 0x0458a989, 0x045d3e53, 0x0461d451, 0x04666b83, 0x046b03e7,
  0x046f9d7e, 0x04743847, 0x0478d440, 0x047d716a, 0x04820fc3, 0x0486af4c, 0x048b5003, 0x048ff1e8,
  0x049494fb, 0x0499393a, 0x049ddea5, 0x04a2853c, 0x04a72cfe, 0x04abd5ea, 0x04b08000, 0x04b52b3f,
  0x04b9d7a7, 0x04be8537, 0x04c333ee, 0x04c7e3cc, 0x04cc94d1, 0x04d146fb, 0x04d5fa4b, 0x04daaec0,
  0x04df6458, 0x04e41b14, 0x04e8d2f3, 0x04ed8bf5, 0x04f24618, 0x04f7015d, 0x04fbbdc3, 0x05007b49,
  0x050539ef, 0x0509f9b4, 0x050eba98, 0x05137c9a, 0x05183fba, 0x051d03f7, 0x0521c950, 0x05268fc6,
  0x052b5757, 0x05302003, 0x0534e9ca, 0x0539b4ab, 0x053e80a6, 0x05434db9, 0x05481be5, 0x054ceb2a,
  0x0551bb85, 0x05568cf8, 0x055b5f81, 0x05603321, 0x056507d6, 0x0569dda0, 0x056eb47f, 0x05738c72,
  0x05786578, 0x057d3f92, 0x05821abf, 0x0586f6fd, 0x058bd44e, 0x0590b2b0, 0x05959222, 0x059a72a5,
  0x059f5438, 0x05a436da, 0x05a91a8c, 0x05adff4c, 0x05b2e51a, 0x05b7cbf5, 0x05bcb3de, 0x05c19cd3,
  0x05c686d5, 0x05cb71e2, 0x05d05dfb, 0x05d54b1f, 0x05da394d, 0x05df2885, 0x05e418c7, 0x05e90a12,
  0x05edfc66, 0x05f2efc2, 0x05f7e426, 0x05fcd992, 0x0601d004, 0x0606c77d, 0x060bbffd, 0x0610b982,
  0x0615b40c, 0x061aaf9c, 0x061fac2f, 0x0624a9c7, 0x0629a863, 0x062ea802, 0x0633a8a3, 0x0638aa48,
  0x063dacee, 0x0642b096, 0x0647b53f, 0x064cbae9, 0x0651c193, 0x0656c93d, 0x065bd1e7, 0x0660db91,
  0x0665e639, 0x066af1df, 0x066ffe84, 0x06750c26, 0x067a1ac6, 0x067f2a62, 0x06843afb, 0x06894c90,
  0x068e5f21, 0x069372ae, 0x06988735, 0x069d9cb7, 0x06a2b333, 0x06a7caa9, 0x06ace318, 0x06b1fc81,
  0x06b716e2, 0x06bc323b, 0x06c14e8d, 0x06c66bd6, 0x06cb8a17, 0x06d0a94e, 0x06d5c97c, 0x06daeaa1,
  0x06e00cbb, 0x06e52fca, 0x06ea53cf, 0x06ef78c8, 0x06f49eb6, 0x06f9c597, 0x06feed6d, 0x07041636,
  0x07093ff2, 0x070e6aa0, 0x07139641, 0x0718c2d3, 0x071df058, 0x07231ecd, 0x07284e34, 0x072d7e8b,
  0x0732afd2, 0x0737e209, 0x073d1530, 0x07424946, 0x07477e4b, 0x074cb43e, 0x0751eb20, 0x075722ef,
  0x075c5bac, 0x07619557, 0x0766cfee, 0x076c0b72, 0x077147e2, 0x0776853e, 0x077bc385, 0x078102b8,
  0x078642d6, 0x078b83de, 0x0790c5d1, 0x079608ae, 0x079b4c74, 0x07a09124, 0x07a5d6bd, 0x07ab1d3e,
  0x07b064a8, 0x07b5acfb, 0x07baf635, 0x07c04056, 0x07c58b5f, 0x07cad74e, 0x07d02424, 0x07d571e0,
  0x07dac083, 0x07e0100a, 0x07e56078, 0x07eab1ca, 0x07f00401, 0x07f5571d, 0x07faab1c]

def rqMantissas14 : List ℕ := [
  0x04000000, 0x0402aae3, 0x04055638, 0x040801ff, 0x040aae37, 0x040d5ae0, 0x041007fa, 0x0412b586,
  0x04156381, 0x041811ee, 0x041ac0cb, 0x041d7018, 0x04201fd5, 0x0422d003, 0x042580a0, 0x042831ad,
  0x042ae32a, 0x042d9516, 0x04304772, 0x0432fa3d, 0x0435ad76, 0x0438611f, 0x043b1536, 0x043dc9bc,
  0x04407eb1, 0x04433414, 0x0445e9e5, 0x0448a024, 0x044b56d1, 0x044e0dec, 0x0450c575, 0x04537d6b,
  0x045635cf, 0x0458ee9f, 0x045ba7dd, 0x045e6188, 0x04611ba0, 0x0463d625, 0x04669116, 0x04694c74,
  0x046c083e, 0x046ec474, 0x04718116, 0x04743e25, 0x0476fb9f, 0x0479b984, 0x047c77d6, 0x047f3693,
  0x0481f5bb, 0x0484b54e, 0x0487754c, 0x048a35b6, 0x048cf68a, 0x048fb7c8, 0x04927972, 0x04953b85,
  0x0497fe03, 0x049ac0eb, 0x049d843e, 0x04a047fa, 0x04a30c20, 0x04a5d0af, 0x04a895a8, 0x04ab5b0b,
  0x04ae20d7, 0x04b0e70c, 0x04b3adaa, 0x04b674b1, 0x04b93c21, 0x04bc03fa, 0x04becc3b, 0x04c194e4,
  0x04c45df6, 0x04c72771, 0x04c9f153, 0x04ccbb9d, 0x04cf864f, 0x04d25169, 0x04d51ceb, 0x04d7e8d4,
  0x04dab524, 0x04dd81dc, 0x04e04efb, 0x04e31c81, 0x04e5ea6e, 0x04e8b8c2, 0x04eb877c, 0x04ee569d,
  0x04f12624, 0x04f3f612, 0x04f6c666, 0x04f99721, 0x04fc6841, 0x04ff39c7, 0x05020bb3, 0x0504de05,
  0x0507b0bc, 0x050a83d8, 0x050d575b, 0x05102b42, 0x0512ff8e, 0x0515d440, 0x0518a956, 0x051b7ed1,
  0x051e54b1, 0x05212af5, 0x0524019e, 0x0526d8ab, 0x0529b01d, 0x052c87f2, 0x052f602c, 0x053238ca,
  0x053511cb, 0x0537eb30, 0x053ac4f9, 0x053d9f25, 0x054079b5, 0x054354a8, 0x05462ffe, 0x05490bb7,
  0x054be7d4, 0x054ec453, 0x0551a134, 0x05547e79, 0x05575c20, 0x055a3a2a, 0x055d1896, 0x055ff764,
  0x0562d694, 0x0565b627, 0x0568961b, 0x056b7671, 0x056e5729, 0x05713843, 0x057419be, 0x0576fb9a,
  0x0579ddd8, 0x057cc077, 0x057fa378, 0x058286d9, 0x05856a9b, 0x05884ebe, 0x058b3342, 0x058e1827,
  0x0590fd6c, 0x0593e311, 0x0596c917, 0x0599af7d, 0x059c9643, 0x059f7d6a, 0x05a264f0, 0x05a54cd6,
  0x05a8351c, 0x05ab1dc2, 0x05ae06c7, 0x05b0f02b, 0x05b3d9f0, 0x05b6c413, 0x05b9ae95, 0x05bc9977,
  0x05bf84b8, 0x05c27057, 0x05c55c56, 0x05c848b3, 0x05cb356e, 0x05ce2289, 0x05d11001, 0x05d3fdd8,
  0x05d6ec0e, 0x05d9daa1, 0x05dcc993, 0x05dfb8e2, 0x05e2a890, 0x05e5989b, 0x05e88904, 0x05eb79cb,
  0x05ee6aef, 0x05f15c70, 0x05f44e4f, 0x05f7408b, 0x05fa3324, 0x05fd261b, 0x0600196e, 0x06030d1e,
  0x0606012b, 0x0608f595, 0x060bea5c, 0x060edf7f, 0x0611d4fe, 0x0614cada, 0x0617c112, 0x061ab7a6,
  0x061dae96, 0x0620a5e3, 0x06239d8b, 0x0626958f, 0x06298def, 0x062c86aa, 0x062f7fc1, 0x06327934,
  0x06357302, 0x06386d2b, 0x063b67b0, 0x063e6290, 0x06415dcb, 0x06445960, 0x06475551, 0x064a519c,
  0x064d4e43, 0x06504b44, 0x0653489f, 0x06564655, 0x06594465, 0x065c42d0, 0x065f4195, 0x066240b4,
  0x0665402d, 0x06684000, 0x066b402d, 0x066e40b3, 0x06714194, 0x067442ce, 0x06774462, 0x067a464f,
  0x067d4896, 0x06804b36, 0x06834e2f, 0x06865181, 0x0689552c, 0x068c5931, 0x068f5d8e, 0x06926245,
  0x06956753, 0x06986cbb, 0x069b727b, 0x069e7894, 0x06a17f05, 0x06a485cf, 0x06a78cf1, 0x06aa946b,
  0x06ad9c3d, 0x06b0a468, 0x06b3acea, 0x06b6b5c4, 0x06b9bef6, 0x06bcc880, 0x06bfd261, 0x06c2dc9a,
  0x06c5e72b, 0x06c8f213, 0x06cbfd52, 0x06cf08e9, 0x06d214d7, 0x06d5211c, 0x06d82db8, 0x06db3aaa,
  0x06de47f4, 0x06e15595, 0x06e4638d, 0x06e771db, 0x06ea807f, 0x06ed8f7b, 0x06f09ecc, 0x06f3ae75,
  0x06f6be73, 0x06f9cec8, 0x06fcdf72, 0x06fff073, 0x070301ca, 0x07061377, 0x0709257a, 0x070c37d2,
  0x070f4a80, 0x07125d84, 0x071570de, 0x0718848d, 0x071b9891, 0x071eaceb, 0x0721c19a, 0x0724d69e,
  0x0727ebf7, 0x072b01a6, 0x072e17a9, 0x07312e01, 0x073444ae, 0x07375bb0, 0x073a7307, 0x073d8ab2,
  0x0740a2b2, 0x0743bb06, 0x0746d3af, 0x0749ecac, 0x074d05fe, 0x07501fa3, 0x0753399d, 0x075653eb,
  0x07596e8d, 0x075c8983, 0x075fa4cc, 0x0762c06a, 0x0765dc5b, 0x0768f8a0, 0x076c1538, 0x076f3224,
  0x07724f64, 0x07756cf7, 0x07788add, 0x077ba916, 0x077ec7a3, 0x0781e683, 0x078505b5, 0x0788253b,
  0x078b4514, 0x078e653f, 0x079185be, 0x0794a68f, 0x0797c7b2, 0x079ae929, 0x079e0af1, 0x07a12d0c,
  0x07a44f7a, 0x07a7723a, 0x07aa954c, 0x07adb8b0, 0x07b0dc67, 0x07b4006f, 0x07b724ca, 0x07ba4976,
  0x07bd6e75, 0x07c093c5, 0x07c3b967, 0x07c6df5a, 0x07ca059f, 0x07cd2c36, 0x07d0531e, 0x07d37a57,
  0x07d6a1e2, 0x07d9c9be, 0x07dcf1ec, 0x07e01a6a, 0x07e3433a, 0x07e66c5a, 0x07e995cc, 0x07ecbf8e,
  0x07efe9a1, 0x07f31405, 0x07f63eba, 0x07f969c0, 0x07fc9516, 0x07ffc0bc]

def rqMantissas15A : List ℕ := [
  0x04017659, 0x04030c7d, 0x0404a2c9, 0x0406393d, 0x0407cfd9, 0x0409669d, 0x040afd89, 0x040c949e,
  0x040e2bda, 0x040fc33e, 0x04115aca, 0x0412f27e, 0x04148a5a, 0x0416225d, 0x0417ba89, 0x041952dc,
  0x041aeb57, 0x041c83fa, 0x041e1cc4, 0x041fb5b6, 0x04214ed0, 0x0422e811, 0x04248179, 0x04261b0a,
  0x0427b4c2, 0x04294ea1, 0x042ae8a7, 0x042c82d6, 0x042e1d2b, 0x042fb7a8, 0x0431524c, 0x0432ed17,
  0x0434880a, 0x04362324, 0x0437be65, 0x043959cd, 0x043af55d, 0x043c9113, 0x043e2cf1, 0x043fc8f6,
  0x04416522, 0x04430174, 0x04449dee, 0x04463a8f, 0x0447d756, 0x04497445, 0x044b115a, 0x044cae96,
  0x044e4bf9, 0x044fe983, 0x04518733, 0x0453250a, 0x0454c308, 0x0456612d, 0x0457ff78, 0x04599dea,
  0x045b3c82, 0x045cdb41, 0x045e7a26, 0x04601932, 0x0461b864, 0x046357bd, 0x0464f73c, 0x046696e2,
  0x046836ae, 0x0469d6a0, 0x046b76b9, 0x046d16f7, 0x046eb75c, 0x047057e8, 0x0471f899, 0x04739971,
  0x04753a6f, 0x0476db92, 0x04787cdc, 0x047a1e4c, 0x047bbfe2, 0x047d619e, 0x047f0380, 0x0480a588,
  0x048247b6, 0x0483ea0a, 0x04858c83, 0x04872f22, 0x0488d1e8, 0x048a74d3, 0x048c17e3, 0x048dbb1a,
  0x048f5e76, 0x049101f8, 0x0492a59f, 0x0494496c, 0x0495ed5f, 0x04979177, 0x049935b5, 0x049ada19,
  0x049c7ea1, 0x049e2350, 0x049fc824, 0x04a16d1d, 0x04a3123b, 0x04a4b77f, 0x04a65ce8, 0x04a80277,
  0x04a9a82b, 0x04ab4e04, 0x04acf402, 0x04ae9a26, 0x04b0406e, 0x04b1e6dc, 0x04b38d6f, 0x04b53427,
  0x04b6db05, 0x04b88207, 0x04ba292e, 0x04bbd07a, 0x04bd77ec, 0x04bf1f82, 0x04c0c73d, 0x04c26f1d,
  0x04c41722, 0x04c5bf4c, 0x04c7679a, 0x04c9100d, 0x04cab8a6, 0x04cc6163, 0x04ce0a44, 0x04cfb34b,
  0x04d15c76, 0x04d305c5, 0x04d4af3a, 0x04d658d2, 0x04d80290, 0x04d9ac72, 0x04db5679, 0x04dd00a4,
  0x04deaaf3, 0x04e05567, 0x04e20000, 0x04e3aabd, 0x04e5559e, 0x04e700a3, 0x04e8abcd, 0x04ea571c,
  0x04ec028e, 0x04edae25, 0x04ef59e0, 0x04f105bf, 0x04f2b1c3, 0x04f45dea, 0x04f60a36, 0x04f7b6a6,
  0x04f9633a, 0x04fb0ff2, 0x04fcbcce, 0x04fe69ce, 0x050016f3, 0x0501c43b, 0x050371a7, 0x05051f37,
  0x0506cceb, 0x05087ac2, 0x050a28be, 0x050bd6de, 0x050d8521, 0x050f3388, 0x0510e213, 0x051290c2,
  0x05143f94, 0x0515ee8a, 0x05179da4, 0x05194ce1, 0x051afc42, 0x051cabc7, 0x051e5b6f, 0x05200b3a,
  0x0521bb2a, 0x05236b3d, 0x05251b73, 0x0526cbcd, 0x05287c4a, 0x052a2cea, 0x052bddae, 0x052d8e96,
  0x052f3fa1, 0x0530f0cf, 0x0532a220, 0x05345395, 0x0536052d, 0x0537b6e8, 0x053968c6, 0x053b1ac8,
  0x053ccced, 0x053e7f35, 0x054031a0, 0x0541e42e, 0x054396df, 0x054549b4, 0x0546fcab, 0x0548afc6,
  0x054a6303, 0x054c1663, 0x054dc9e7, 0x054f7d8d, 0x05513156, 0x0552e542, 0x05549951, 0x05564d83,
  0x055801d8, 0x0559b64f, 0x055b6ae9, 0x055d1fa6, 0x055ed486, 0x05608988, 0x05623ead, 0x0563f3f5,
  0x0565a960, 0x05675eed, 0x0569149c, 0x056aca6f, 0x056c8064, 0x056e367b, 0x056fecb5, 0x0571a311,
  0x05735990, 0x05751032, 0x0576c6f5, 0x05787ddc, 0x057a34e4, 0x057bec0f, 0x057da35d, 0x057f5acc,
  0x0581125e, 0x0582ca12, 0x058481e9, 0x058639e2, 0x0587f1fd, 0x0589aa3a, 0x058b629a, 0x058d1b1b,
  0x058ed3bf, 0x05908c85, 0x0592456d, 0x0593fe77, 0x0595b7a3, 0x059770f1, 0x05992a61, 0x059ae3f3,
  0x059c9da8, 0x059e577e, 0x05a01176, 0x05a1cb90, 0x05a385cc, 0x05a5402a, 0x05a6faa9, 0x05a8b54b,
  0x05aa700e, 0x05ac2af3, 0x05ade5fa, 0x05afa123, 0x05b15c6d, 0x05b317d9, 0x05b4d367, 0x05b68f16,
  0x05b84ae7, 0x05ba06da, 0x05bbc2ef, 0x05bd7f25, 0x05bf3b7c, 0x05c0f7f5, 0x05c2b490, 0x05c4714c,
  0x05c62e2a, 0x05c7eb29, 0x05c9a84a, 0x05cb658c, 0x05cd22ef, 0x05cee074, 0x05d09e1b, 0x05d25be2,
  0x05d419cb, 0x05d5d7d5, 0x05d79601, 0x05d9544e, 0x05db12bc, 0x05dcd14c, 0x05de8ffc, 0x05e04ece,
  0x05e20dc1, 0x05e3ccd5, 0x05e58c0b, 0x05e74b61, 0x05e90ad9, 0x05eaca72, 0x05ec8a2b, 0x05ee4a06,
  0x05f00a02, 0x05f1ca1f, 0x05f38a5d, 0x05f54abc, 0x05f70b3c, 0x05f8cbdc, 0x05fa8c9e, 0x05fc4d81,
  0x05fe0e84, 0x05ffcfa8, 0x060190ee, 0x06035254, 0x060513da, 0x0606d582, 0x0608974a, 0x060a5934,
  0x060c1b3d, 0x060ddd68, 0x060f9fb3, 0x0611621f, 0x061324ac, 0x0614e759, 0x0616aa27, 0x06186d16,
  0x061a3025, 0x061bf354, 0x061db6a5, 0x061f7a15, 0x06213da7, 0x06230158, 0x0624c52a, 0x0626891d,
  0x06284d30, 0x062a1164, 0x062bd5b8, 0x062d9a2c, 0x062f5ec1, 0x06312376, 0x0632e84b, 0x0634ad41,
  0x06367257, 0x0638378d, 0x0639fce4, 0x063bc25b, 0x063d87f2, 0x063f4da9, 0x06411380, 0x0642d978,
  0x06449f8f, 0x064665c7, 0x06482c1f, 0x0649f297, 0x064bb92f, 0x064d7fe8, 0x064f46c0, 0x06510db8,
  0x0652d4d0, 0x06549c09, 0x06566361, 0x06582ad9, 0x0659f271, 0x065bba29, 0x065d8201, 0x065f49f9,
  0x06611211, 0x0662da49, 0x0664a2a0, 0x06666b17, 0x066833ae, 0x0669fc65, 0x066bc53c, 0x066d8e32,
  0x066f5748, 0x0671207e, 0x0672e9d4, 0x0674b349, 0x06767cde, 0x06784692, 0x067a1066, 0x067bda5a,
  0x067da46d, 0x067f6ea0, 0x068138f3, 0x06830365, 0x0684cdf6, 0x068698a8, 0x06886378, 0x068a2e68,
  0x068bf978, 0x068dc4a7, 0x068f8ff5, 0x06915b63, 0x069326f0, 0x0694f29c, 0x0696be68, 0x06988a54,
  0x069a565e, 0x069c2288, 0x069deed1, 0x069fbb3a, 0x06a187c1, 0x06a35468, 0x06a5212f, 0x06a6ee14,
  0x06a8bb18, 0x06aa883c, 0x06ac557f, 0x06ae22e1, 0x06aff062, 0x06b1be03, 0x06b38bc2, 0x06b559a1,
  0x06b7279e, 0x06b8f5bb, 0x06bac3f6, 0x06bc9251, 0x06be60cb, 0x06c02f63, 0x06c1fe1b, 0x06c3ccf1,
  0x06c59be7, 0x06c76afb, 0x06c93a2e, 0x06cb0981, 0x06ccd8f2, 0x06cea881, 0x06d07830, 0x06d247fe,
  0x06d417ea, 0x06d5e7f5, 0x06d7b81f, 0x06d98868, 0x06db58cf, 0x06dd2955, 0x06def9fa, 0x06e0cabe,
  0x06e29ba0, 0x06e46ca1, 0x06e63dc0, 0x06e80efe, 0x06e9e05b, 0x06ebb1d6, 0x06ed8370, 0x06ef5529,
  0x06f12700, 0x06f2f8f5, 0x06f4cb09, 0x06f69d3c, 0x06f86f8d, 0x06fa41fd, 0x06fc148b, 0x06fde737,
  0x06ffba02, 0x07018ceb, 0x07035ff3, 0x07053319, 0x0707065d, 0x0708d9c0, 0x070aad41, 0x070c80e1,
  0x070e549f, 0x0710287b, 0x0711fc75, 0x0713d08d, 0x0715a4c4, 0x07177919, 0x07194d8c, 0x071b221e,
  0x071cf6ce, 0x071ecb9b, 0x0720a087, 0x07227591, 0x07244ab9, 0x07262000, 0x0727f564, 0x0729cae7,
  0x072ba087, 0x072d7646, 0x072f4c22, 0x0731221d, 0x0732f835, 0x0734ce6c, 0x0736a4c1, 0x07387b33,
  0x073a51c4, 0x073c2872, 0x073dff3e, 0x073fd628, 0x0741ad30, 0x07438456, 0x07455b9a, 0x074732fc,
  0x07490a7b, 0x074ae218, 0x074cb9d3, 0x074e91ac, 0x075069a3, 0x075241b7, 0x075419e9, 0x0755f239,
  0x0757caa7, 0x0759a332, 0x075b7bdb, 0x075d54a1, 0x075f2d85, 0x07610687, 0x0762dfa6, 0x0764b8e3,
  0x0766923e, 0x07686bb6, 0x076a454c, 0x076c1eff, 0x076df8d0, 0x076fd2be, 0x0771acca, 0x077386f3]

def rqMantissas15B : List ℕ := [
  0x0775613a, 0x07773b9e, 0x07791620, 0x077af0bf, 0x077ccb7c, 0x077ea656, 0x0780814d, 0x07825c62,
  0x07843794, 0x078612e3, 0x0787ee50, 0x0789c9da, 0x078ba581, 0x078d8146, 0x078f5d28, 0x07913927,
  0x07931543, 0x0794f17d, 0x0796cdd4, 0x0798aa48, 0x079a86d9, 0x079c6388, 0x079e4053, 0x07a01d3c,
  0x07a1fa42, 0x07a3d765, 0x07a5b4a5, 0x07a79202, 0x07a96f7d, 0x07ab4d14, 0x07ad2ac8, 0x07af089a,
  0x07b0e688, 0x07b2c494, 0x07b4a2bc, 0x07b68102, 0x07b85f64, 0x07ba3de4, 0x07bc1c80, 0x07bdfb39,
  0x07bfda0f, 0x07c1b902, 0x07c39812, 0x07c5773f, 0x07c75689, 0x07c935ef, 0x07cb1573, 0x07ccf513,
  0x07ced4d0, 0x07d0b4aa, 0x07d294a0, 0x07d474b3, 0x07d654e4, 0x07d83530, 0x07da159a, 0x07dbf620,
  0x07ddd6c3, 0x07dfb783, 0x07e1985f, 0x07e37958, 0x07e55a6e, 0x07e73ba0, 0x07e91cef, 0x07eafe5a,
  0x07ecdfe2, 0x07eec187, 0x07f0a348, 0x07f28526, 0x07f46720, 0x07f64937, 0x07f82b6a, 0x07fa0dba,
  0x07fbf026, 0x07fdd2af, 0x07ffb554]

def rqMantissas16A : List ℕ := [
  0x0400cc0b, 0x0401bd7a, 0x0402aef7, 0x0403a083, 0x0404921c, 0x040583c4, 0x0406757a, 0x0407673f,
  0x04085911, 0x04094af1, 0x040a3ce0, 0x040b2edd, 0x040c20e8, 0x040d1301, 0x040e0529, 0x040ef75e,
  0x040fe9a1, 0x0410dbf3, 0x0411ce53, 0x0412c0c1, 0x0413b33d, 0x0414a5c7, 0x0415985f, 0x04168b05,
  0x04177db9, 0x0418707c, 0x0419634c, 0x041a562a, 0x041b4917, 0x041c3c11, 0x041d2f1a, 0x041e2230,
  0x041f1555, 0x04200888, 0x0420fbc8, 0x0421ef17, 0x0422e273, 0x0423d5de, 0x0424c956, 0x0425bcdd,
  0x0426b071, 0x0427a414, 0x042897c4, 0x04298b83, 0x042a7f4f, 0x042b7329, 0x042c6711, 0x042d5b07,
  0x042e4f0b, 0x042f431d, 0x0430373d, 0x04312b6b, 0x04321fa6, 0x043313f0, 0x04340847, 0x0434fcad,
  0x0435f120, 0x0436e5a1, 0x0437da2f, 0x0438cecc, 0x0439c377, 0x043ab82f, 0x043bacf5, 0x043ca1c9,
  0x043d96ab, 0x043e8b9b, 0x043f8098, 0x044075a3, 0x04416abc, 0x04425fe3, 0x04435518, 0x04444a5a,
  0x04453fab, 0x04463508, 0x04472a74, 0x04481fee, 0x04491575, 0x044a0b0a, 0x044b00ac, 0x044bf65d,
  0x044cec1b, 0x044de1e7, 0x044ed7c0, 0x044fcda8, 0x0450c39c, 0x0451b99f, 0x0452afaf, 0x0453a5cd,
  0x04549bf9, 0x04559232, 0x04568879, 0x04577ece, 0x04587530, 0x04596ba0, 0x045a621e, 0x045b58a9,
  0x045c4f42, 0x045d45e9, 0x045e3c9d, 0x045f335e, 0x04602a2e, 0x0461210b, 0x046217f5, 0x04630eed,
  0x046405f3, 0x0464fd06, 0x0465f427, 0x0466eb55, 0x0467e291, 0x0468d9db, 0x0469d132, 0x046ac896,
  0x046bc009, 0x046cb788, 0x046daf15, 0x046ea6b0, 0x046f9e58, 0x0470960e, 0x04718dd1, 0x047285a2,
  0x04737d80, 0x0474756c, 0x04756d65, 0x0476656b, 0x04775d7f, 0x047855a1, 0x04794dd0, 0x047a460c,
  0x047b3e56, 0x047c36ae, 0x047d2f12, 0x047e2784, 0x047f2004, 0x04801891, 0x0481112b, 0x048209d3,
  0x04830288, 0x0483fb4b, 0x0484f41b, 0x0485ecf8, 0x0486e5e3, 0x0487dedb, 0x0488d7e1, 0x0489d0f4,
  0x048aca14, 0x048bc341, 0x048cbc7c, 0x048db5c4, 0x048eaf1a, 0x048fa87d, 0x0490a1ed, 0x04919b6a,
  0x049294f5, 0x04938e8d, 0x04948833, 0x049581e5, 0x04967ba5, 0x04977573, 0x04986f4d, 0x04996935,
  0x049a632a, 0x049b5d2c, 0x049c573c, 0x049d5159, 0x049e4b83, 0x049f45ba, 0x04a03ffe, 0x04a13a50,
  0x04a234af, 0x04a32f1b, 0x04a42995, 0x04a5241b, 0x04a61eaf, 0x04a71950, 0x04a813fe, 0x04a90eba,
  0x04aa0982, 0x04ab0458, 0x04abff3b, 0x04acfa2b, 0x04adf528, 0x04aef032, 0x04afeb4a, 0x04b0e66e,
  0x04b1e1a0, 0x04b2dcdf, 0x04b3d82b, 0x04b4d384, 0x04b5ceea, 0x04b6ca5e, 0x04b7c5de, 0x04b8c16c,
  0x04b9bd06, 0x04bab8ae, 0x04bbb463, 0x04bcb024, 0x04bdabf3, 0x04bea7cf, 0x04bfa3b8, 0x04c09faf,
  0x04c19bb2, 0x04c297c2, 0x04c393df, 0x04c49009, 0x04c58c41, 0x04c68885, 0x04c784d6, 0x04c88135,
  0x04c97da0, 0x04ca7a18, 0x04cb769e, 0x04cc7330, 0x04cd6fcf, 0x04ce6c7b, 0x04cf6935, 0x04d065fb,
  0x04d162ce, 0x04d25fae, 0x04d35c9b, 0x04d45995, 0x04d5569c, 0x04d653b0, 0x04d750d1, 0x04d84dff,
  0x04d94b3a, 0x04da4881, 0x04db45d6, 0x04dc4337, 0x04dd40a6, 0x04de3e21, 0x04df3ba9, 0x04e0393e,
  0x04e136e0, 0x04e2348f, 0x04e3324b, 0x04e43013, 0x04e52de9, 0x04e62bcb, 0x04e729ba, 0x04e827b6,
  0x04e925bf, 0x04ea23d4, 0x04eb21f7, 0x04ec2026, 0x04ed1e62, 0x04ee1cab, 0x04ef1b01, 0x04f01963,
  0x04f117d3, 0x04f2164f, 0x04f314d8, 0x04f4136d, 0x04f51210, 0x04f610bf, 0x04f70f7b, 0x04f80e44,
  0x04f90d19, 0x04fa0bfc, 0x04fb0aeb, 0x04fc09e7, 0x04fd08ef, 0x04fe0805, 0x04ff0727, 0x05000655,
  0x05010591, 0x050204d9, 0x0503042e, 0x0504038f, 0x050502fe, 0x05060279, 0x05070200, 0x05080195,
  0x05090136, 0x050a00e3, 0x050b009e, 0x050c0065, 0x050d0039, 0x050e0019, 0x050f0006, 0x05100000,
  0x05110006, 0x05120019, 0x05130039, 0x05140065, 0x0515009e, 0x051600e3, 0x05170135, 0x05180194,
  0x051901ff, 0x051a0277, 0x051b02fc, 0x051c038d, 0x051d042a, 0x051e04d4, 0x051f058b, 0x0520064f,
  0x0521071f, 0x052207fb, 0x052308e4, 0x052409da, 0x05250adc, 0x05260bea, 0x05270d06, 0x05280e2d,
  0x05290f62, 0x052a10a3, 0x052b11f0, 0x052c134a, 0x052d14b0, 0x052e1623, 0x052f17a2, 0x0530192e,
  0x05311ac6, 0x05321c6b, 0x05331e1c, 0x05341fda, 0x053521a4, 0x0536237b, 0x0537255e, 0x0538274e,
  0x0539294a, 0x053a2b52, 0x053b2d67, 0x053c2f89, 0x053d31b6, 0x053e33f1, 0x053f3637, 0x0540388a,
  0x05413aea, 0x05423d56, 0x05433fce, 0x05444253, 0x054544e4, 0x05464781, 0x05474a2b, 0x05484ce2,
  0x05494fa4, 0x054a5273, 0x054b554e, 0x054c5836, 0x054d5b2a, 0x054e5e2b, 0x054f6138, 0x05506451,
  0x05516776, 0x05526aa8, 0x05536de6, 0x05547131, 0x05557487, 0x055677ea, 0x05577b5a, 0x05587ed5,
  0x0559825e, 0x055a85f2, 0x055b8992, 0x055c8d3f, 0x055d90f9, 0x055e94be, 0x055f9890, 0x05609c6e,
  0x0561a058, 0x0562a44f, 0x0563a851, 0x0564ac60, 0x0565b07c, 0x0566b4a3, 0x0567b8d7, 0x0568bd17,
  0x0569c163, 0x056ac5bc, 0x056bca20, 0x056cce91, 0x056dd30e, 0x056ed798, 0x056fdc2d, 0x0570e0cf,
  0x0571e57d, 0x0572ea37, 0x0573eefd, 0x0574f3d0, 0x0575f8ae, 0x0576fd99, 0x05780290, 0x05790793,
  0x057a0ca3, 0x057b11be, 0x057c16e6, 0x057d1c1a, 0x057e2159, 0x057f26a6, 0x05802bfe, 0x05813162,
  0x058236d2, 0x05833c4f, 0x058441d8, 0x0585476c, 0x05864d0d, 0x058752ba, 0x05885873, 0x05895e39,
  0x058a640a, 0x058b69e7, 0x058c6fd1, 0x058d75c6, 0x058e7bc8, 0x058f81d5, 0x059087ef, 0x05918e15,
  0x05929447, 0x05939a84, 0x0594a0ce, 0x0595a724, 0x0596ad86, 0x0597b3f4, 0x0598ba6e, 0x0599c0f4,
  0x059ac786, 0x059bce25, 0x059cd4cf, 0x059ddb85, 0x059ee247, 0x059fe915, 0x05a0efef, 0x05a1f6d5,
  0x05a2fdc7, 0x05a404c5, 0x05a50bcf, 0x05a612e5, 0x05a71a07, 0x05a82135, 0x05a9286f, 0x05aa2fb5,
  0x05ab3707, 0x05ac3e65, 0x05ad45ce, 0x05ae4d44, 0x05af54c6, 0x05b05c53, 0x05b163ed, 0x05b26b92,
  0x05b37343, 0x05b47b00, 0x05b582c9, 0x05b68a9e, 0x05b7927f, 0x05b89a6c, 0x05b9a265, 0x05baaa69,
  0x05bbb27a, 0x05bcba96, 0x05bdc2be, 0x05becaf2, 0x05bfd332, 0x05c0db7e, 0x05c1e3d6, 0x05c2ec39,
  0x05c3f4a9, 0x05c4fd24, 0x05c605ab, 0x05c70e3e, 0x05c816dd, 0x05c91f87, 0x05ca283e, 0x05cb3100,
  0x05cc39ce, 0x05cd42a8, 0x05ce4b8d, 0x05cf547f, 0x05d05d7c, 0x05d16685, 0x05d26f9a, 0x05d378bb,
  0x05d481e7, 0x05d58b1f, 0x05d69463, 0x05d79db3, 0x05d8a70f, 0x05d9b076, 0x05dab9e9, 0x05dbc368,
  0x05dcccf2, 0x05ddd689, 0x05dee02b, 0x05dfe9d8, 0x05e0f392, 0x05e1fd57, 0x05e30728, 0x05e41105,
  0x05e51aed, 0x05e624e1, 0x05e72ee1, 0x05e838ed, 0x05e94304, 0x05ea4d27, 0x05eb5756, 0x05ec6190,
  0x05ed6bd6, 0x05ee7628, 0x05ef8085, 0x05f08aee, 0x05f19563, 0x05f29fe3, 0x05f3aa6f, 0x05f4b507,
  0x05f5bfab, 0x05f6ca5a, 0x05f7d514, 0x05f8dfdb, 0x05f9eaad, 0x05faf58a, 0x05fc0073, 0x05fd0b68]

def rqMantissas16B : List ℕ := [
  0x05fe1669, 0x05ff2175, 0x06002c8d, 0x060137b0, 0x060242df, 0x06034e19, 0x0604595f, 0x060564b1,
  0x0606700f, 0x06077b77, 0x060886ec, 0x0609926c, 0x060a9df8, 0x060ba98f, 0x060cb532, 0x060dc0e0,
  0x060ecc9a, 0x060fd860, 0x0610e431, 0x0611f00d, 0x0612fbf5, 0x061407e9, 0x061513e8, 0x06161ff3,
  0x06172c09, 0x0618382b, 0x06194458, 0x061a5091, 0x061b5cd5, 0x061c6925, 0x061d7581, 0x061e81e8,
  0x061f8e5a, 0x06209ad8, 0x0621a761, 0x0622b3f6, 0x0623c096, 0x0624cd42, 0x0625d9f9, 0x0626e6bc,
  0x0627f38a, 0x06290064, 0x062a0d49, 0x062b1a3a, 0x062c2736, 0x062d343d, 0x062e4150, 0x062f4e6f,
  0x06305b99, 0x063168ce, 0x0632760f, 0x0633835b, 0x063490b2, 0x06359e15, 0x0636ab83, 0x0637b8fd,
  0x0638c682, 0x0639d413, 0x063ae1af, 0x063bef56, 0x063cfd09, 0x063e0ac7, 0x063f1891, 0x06402666,
  0x06413446, 0x06424232, 0x06435029, 0x06445e2b, 0x06456c39, 0x06467a52, 0x06478877, 0x064896a7,
  0x0649a4e2, 0x064ab328, 0x064bc17a, 0x064ccfd8, 0x064dde40, 0x064eecb4, 0x064ffb33, 0x065109be,
  0x06521854, 0x065326f5, 0x065435a1, 0x06554459, 0x0656531c, 0x065761ea, 0x065870c4, 0x06597fa9,
  0x065a8e99, 0x065b9d95, 0x065cac9c, 0x065dbbae, 0x065ecacb, 0x065fd9f4, 0x0660e928, 0x0661f867,
  0x066307b1, 0x06641707, 0x06652668, 0x066635d4, 0x0667454c, 0x066854ce, 0x0669645c, 0x066a73f5,
  0x066b839a, 0x066c9349, 0x066da304, 0x066eb2ca, 0x066fc29b, 0x0670d278, 0x0671e25f, 0x0672f252,
  0x06740250, 0x0675125a, 0x0676226e, 0x0677328e, 0x067842b9, 0x067952ef, 0x067a6330, 0x067b737c,
  0x067c83d4, 0x067d9436, 0x067ea4a4, 0x067fb51d, 0x0680c5a2, 0x0681d631, 0x0682e6cb, 0x0683f771,
  0x06850822, 0x068618de, 0x068729a5, 0x06883a77, 0x06894b55, 0x068a5c3d, 0x068b6d31, 0x068c7e2f,
  0x068d8f39, 0x068ea04e, 0x068fb16e, 0x0690c299, 0x0691d3cf, 0x0692e511, 0x0693f65d, 0x069507b5,
  0x06961917, 0x06972a85, 0x06983bfe, 0x06994d82, 0x069a5f11, 0x069b70ab, 0x069c8250, 0x069d9400,
  0x069ea5bb, 0x069fb781, 0x06a0c953, 0x06a1db2f, 0x06a2ed16, 0x06a3ff09, 0x06a51106, 0x06a6230f,
  0x06a73522, 0x06a84741, 0x06a9596a, 0x06aa6b9f, 0x06ab7ddf, 0x06ac9029, 0x06ada27f, 0x06aeb4e0,
  0x06afc74b, 0x06b0d9c2, 0x06b1ec43, 0x06b2fed0, 0x06b41168, 0x06b5240a, 0x06b636b8, 0x06b74971,
  0x06b85c34, 0x06b96f03, 0x06ba81dc, 0x06bb94c1, 0x06bca7b0, 0x06bdbaaa, 0x06becdb0, 0x06bfe0c0,
  0x06c0f3db, 0x06c20702, 0x06c31a33, 0x06c42d6f, 0x06c540b6, 0x06c65408, 0x06c76765, 0x06c87acc,
  0x06c98e3f, 0x06caa1bd, 0x06cbb545, 0x06ccc8d9, 0x06cddc77, 0x06cef020, 0x06d003d4, 0x06d11794,
  0x06d22b5e, 0x06d33f32, 0x06d45312, 0x06d566fd, 0x06d67af2, 0x06d78ef3, 0x06d8a2fe, 0x06d9b714,
  0x06dacb35, 0x06dbdf61, 0x06dcf398, 0x06de07d9, 0x06df1c26, 0x06e0307d, 0x06e144df, 0x06e2594c,
  0x06e36dc4, 0x06e48246, 0x06e596d4, 0x06e6ab6c, 0x06e7c00f, 0x06e8d4bd, 0x06e9e976, 0x06eafe3a,
  0x06ec1308, 0x06ed27e2, 0x06ee3cc6, 0x06ef51b4, 0x06f066ae, 0x06f17bb3, 0x06f290c2, 0x06f3a5dc,
  0x06f4bb01, 0x06f5d030, 0x06f6e56b, 0x06f7fab0, 0x06f91000, 0x06fa255a, 0x06fb3ac0, 0x06fc5030,
  0x06fd65ab, 0x06fe7b31, 0x06ff90c2, 0x0700a65d, 0x0701bc03, 0x0702d1b4, 0x0703e76f, 0x0704fd35,
  0x07061306, 0x070728e2, 0x07083ec9, 0x070954ba, 0x070a6ab6, 0x070b80bc, 0x070c96ce, 0x070dacea,
  0x070ec310, 0x070fd942, 0x0710ef7e, 0x071205c5, 0x07131c17, 0x07143273, 0x071548da, 0x07165f4b,
  0x071775c8, 0x07188c4f, 0x0719a2e0, 0x071ab97d, 0x071bd024, 0x071ce6d6, 0x071dfd92, 0x071f1459,
  0x07202b2b, 0x07214207, 0x072258ee, 0x07236fe0, 0x072486dc, 0x07259de3, 0x0726b4f4, 0x0727cc11,
  0x0728e338, 0x0729fa69, 0x072b11a5, 0x072c28ec, 0x072d403d, 0x072e5799, 0x072f6f00, 0x07308671,
  0x07319ded, 0x0732b573, 0x0733cd04, 0x0734e4a0, 0x0735fc46, 0x073713f7, 0x07382bb2, 0x07394378,
  0x073a5b49, 0x073b7324, 0x073c8b0a, 0x073da2fa, 0x073ebaf5, 0x073fd2fa, 0x0740eb0a, 0x07420325,
  0x07431b4a, 0x0744337a, 0x07454bb4, 0x074663f8, 0x07477c48, 0x074894a2, 0x0749ad06, 0x074ac575,
  0x074bddee, 0x074cf672, 0x074e0f01, 0x074f279a, 0x0750403e, 0x075158ec, 0x075271a4, 0x07538a67,
  0x0754a335, 0x0755bc0d, 0x0756d4f0, 0x0757eddd, 0x075906d5, 0x075a1fd7, 0x075b38e3, 0x075c51fa,
  0x075d6b1c, 0x075e8448, 0x075f9d7f, 0x0760b6c0, 0x0761d00b, 0x0762e961, 0x076402c1, 0x07651c2c,
  0x076635a2, 0x07674f22, 0x076868ac, 0x07698240, 0x076a9be0, 0x076bb589, 0x076ccf3d, 0x076de8fc,
  0x076f02c5, 0x07701c98, 0x07713676, 0x0772505e, 0x07736a51, 0x0774844e, 0x07759e55, 0x0776b867,
  0x0777d283, 0x0778ecaa, 0x077a06db, 0x077b2117, 0x077c3b5d, 0x077d55ad, 0x077e7008, 0x077f8a6d,
  0x0780a4dc, 0x0781bf56, 0x0782d9da, 0x0783f469, 0x07850f02, 0x078629a5, 0x07874453, 0x07885f0b,
  0x078979ce, 0x078a949a, 0x078baf72, 0x078cca53, 0x078de53f, 0x078f0035, 0x07901b36, 0x07913641,
  0x07925156, 0x07936c76, 0x079487a0, 0x0795a2d4, 0x0796be13, 0x0797d95c, 0x0798f4af, 0x079a100c,
  0x079b2b74, 0x079c46e7, 0x079d6263, 0x079e7dea, 0x079f997b, 0x07a0b516, 0x07a1d0bc, 0x07a2ec6c,
  0x07a40827, 0x07a523eb, 0x07a63fba, 0x07a75b93, 0x07a87777, 0x07a99364, 0x07aaaf5c, 0x07abcb5f,
  0x07ace76b, 0x07ae0382, 0x07af1fa3, 0x07b03bcf, 0x07b15804, 0x07b27444, 0x07b3908e, 0x07b4ace3,
  0x07b5c941, 0x07b6e5aa, 0x07b8021d, 0x07b91e9b, 0x07ba3b22, 0x07bb57b4, 0x07bc7450, 0x07bd90f6,
  0x07beada7, 0x07bfca61, 0x07c0e726, 0x07c203f5, 0x07c320cf, 0x07c43db2, 0x07c55aa0, 0x07c67798,
  0x07c7949a, 0x07c8b1a7, 0x07c9cebd, 0x07caebde, 0x07cc0909, 0x07cd263e, 0x07ce437d, 0x07cf60c7,
  0x07d07e1b, 0x07d19b79, 0x07d2b8e1, 0x07d3d653, 0x07d4f3cf, 0x07d61156, 0x07d72ee6, 0x07d84c81,
  0x07d96a26, 0x07da87d5, 0x07dba58f, 0x07dcc352, 0x07dde120, 0x07defef7, 0x07e01cd9, 0x07e13ac5,
  0x07e258bc, 0x07e376bc, 0x07e494c6, 0x07e5b2db, 0x07e6d0f9, 0x07e7ef22, 0x07e90d55, 0x07ea2b92,
  0x07eb49d9, 0x07ec682a, 0x07ed8686, 0x07eea4eb, 0x07efc35b, 0x07f0e1d4, 0x07f20058, 0x07f31ee6,
  0x07f43d7e, 0x07f55c20, 0x07f67acc, 0x07f79982, 0x07f8b842, 0x07f9d70c, 0x07faf5e1, 0x07fc14bf,
  0x07fd33a8, 0x07fe529a, 0x07ff7197]

def rqMantissas17A : List ℕ := [
  0x0400484f, 0x0400d7d7, 0x04016764, 0x0401f6f7, 0x0402868e, 0x0403162b, 0x0403a5cc, 0x04043573,
  0x0404c51e, 0x040554cf, 0x0405e484, 0x0406743f, 0x040703ff, 0x040793c3, 0x0408238d, 0x0408b35b,
  0x0409432f, 0x0409d308, 0x040a62e5, 0x040af2c8, 0x040b82b0, 0x040c129c, 0x040ca28e, 0x040d3284,
  0x040dc280, 0x040e5281, 0x040ee286, 0x040f7291, 0x041002a1, 0x041092b5, 0x041122cf, 0x0411b2ed,
  0x04124311, 0x0412d339, 0x04136367, 0x0413f399, 0x041483d1, 0x0415140d, 0x0415a44f, 0x04163495,
  0x0416c4e1, 0x04175531, 0x0417e586, 0x041875e1, 0x04190640, 0x041996a4, 0x041a270d, 0x041ab77b,
  0x041b47ef, 0x041bd867, 0x041c68e4, 0x041cf966, 0x041d89ed, 0x041e1a79, 0x041eab0a, 0x041f3b9f,
  0x041fcc3a, 0x04205cda, 0x0420ed7f, 0x04217e28, 0x04220ed7, 0x04229f8a, 0x04233043, 0x0423c100,
  0x042451c3, 0x0424e28a, 0x04257356, 0x04260428, 0x042694fe, 0x042725d9, 0x0427b6b9, 0x0428479e,
  0x0428d888, 0x04296976, 0x0429fa6a, 0x042a8b63, 0x042b1c60, 0x042bad63, 0x042c3e6a, 0x042ccf77,
  0x042d6088, 0x042df19e, 0x042e82b9, 0x042f13d9, 0x042fa4fe, 0x04303628, 0x0430c757, 0x0431588b,
  0x0431e9c3, 0x04327b01, 0x04330c43, 0x04339d8a, 0x04342ed7, 0x0434c028, 0x0435517e, 0x0435e2d9,
  0x04367439, 0x0437059e, 0x04379707, 0x04382876, 0x0438b9e9, 0x04394b61, 0x0439dcdf, 0x043a6e61,
  0x043affe8, 0x043b9174, 0x043c2305, 0x043cb49a, 0x043d4635, 0x043dd7d4, 0x043e6979, 0x043efb22,
  0x043f8cd0, 0x04401e83, 0x0440b03b, 0x044141f7, 0x0441d3b9, 0x04426580, 0x0442f74b, 0x0443891b,
  0x04441af0, 0x0444acca, 0x04453ea9, 0x0445d08d, 0x04466275, 0x0446f463, 0x04478655, 0x0448184c,
  0x0448aa48, 0x04493c49, 0x0449ce4f, 0x044a6059, 0x044af269, 0x044b847d, 0x044c1696, 0x044ca8b4,
  0x044d3ad7, 0x044dccff, 0x044e5f2b, 0x044ef15d, 0x044f8393, 0x045015ce, 0x0450a80e, 0x04513a53,
  0x0451cc9c, 0x04525eeb, 0x0452f13e, 0x04538396, 0x045415f3, 0x0454a855, 0x04553abb, 0x0455cd27,
  0x04565f97, 0x0456f20c, 0x04578486, 0x04581705, 0x0458a989, 0x04593c11, 0x0459ce9e, 0x045a6130,
  0x045af3c7, 0x045b8663, 0x045c1903, 0x045caba9, 0x045d3e53, 0x045dd102, 0x045e63b6, 0x045ef66e,
  0x045f892b, 0x04601bee, 0x0460aeb5, 0x04614180, 0x0461d451, 0x04626727, 0x0462fa01, 0x04638ce0,
  0x04641fc4, 0x0464b2ac, 0x0465459a, 0x0465d88c, 0x04666b83, 0x0466fe7f, 0x0467917f, 0x04682485,
  0x0468b78f, 0x04694a9e, 0x0469ddb2, 0x046a70ca, 0x046b03e7, 0x046b970a, 0x046c2a31, 0x046cbd5c,
  0x046d508d, 0x046de3c2, 0x046e76fc, 0x046f0a3b, 0x046f9d7e, 0x047030c7, 0x0470c414, 0x04715766,
  0x0471eabc, 0x04727e18, 0x04731178, 0x0473a4dd, 0x04743847, 0x0474cbb5, 0x04755f29, 0x0475f2a1,
  0x0476861d, 0x0477199f, 0x0477ad25, 0x047840b0, 0x0478d440, 0x047967d5, 0x0479fb6e, 0x047a8f0c,
  0x047b22af, 0x047bb657, 0x047c4a03, 0x047cddb4, 0x047d716a, 0x047e0524, 0x047e98e4, 0x047f2ca8,
  0x047fc071, 0x0480543e, 0x0480e811, 0x04817be8, 0x04820fc3, 0x0482a3a4, 0x04833789, 0x0483cb73,
  0x04845f62, 0x0484f355, 0x0485874d, 0x04861b4a, 0x0486af4c, 0x04874352, 0x0487d75d, 0x04886b6d,
  0x0488ff82, 0x0489939b, 0x048a27b9, 0x048abbdc, 0x048b5003, 0x048be42f, 0x048c7860, 0x048d0c96,
  0x048da0d0, 0x048e350f, 0x048ec953, 0x048f5d9b, 0x048ff1e8, 0x0490863a, 0x04911a91, 0x0491aeec,
  0x0492434c, 0x0492d7b0, 0x04936c1a, 0x04940088, 0x049494fb, 0x04952972, 0x0495bdee, 0x0496526f,
  0x0496e6f5, 0x04977b7f, 0x0498100e, 0x0498a4a1, 0x0499393a, 0x0499cdd7, 0x049a6278, 0x049af71f,
  0x049b8bca, 0x049c207a, 0x049cb52e, 0x049d49e7, 0x049ddea5, 0x049e7367, 0x049f082f, 0x049f9cfa,
  0x04a031cb, 0x04a0c6a0, 0x04a15b7a, 0x04a1f059, 0x04a2853c, 0x04a31a24, 0x04a3af10, 0x04a44401,
  0x04a4d8f7, 0x04a56df2, 0x04a602f1, 0x04a697f5, 0x04a72cfe, 0x04a7c20b, 0x04a8571d, 0x04a8ec33,
  0x04a9814e, 0x04aa166e, 0x04aaab93, 0x04ab40bc, 0x04abd5ea, 0x04ac6b1c, 0x04ad0053, 0x04ad958f,
  0x04ae2ad0, 0x04aec015, 0x04af555e, 0x04afeaad, 0x04b08000, 0x04b11557, 0x04b1aab4, 0x04b24015,
  0x04b2d57a, 0x04b36ae4, 0x04b40053, 0x04b495c7, 0x04b52b3f, 0x04b5c0bc, 0x04b6563d, 0x04b6ebc3,
  0x04b7814e, 0x04b816dd, 0x04b8ac71, 0x04b9420a, 0x04b9d7a7, 0x04ba6d49, 0x04bb02ef, 0x04bb989a,
  0x04bc2e4a, 0x04bcc3fe, 0x04bd59b7, 0x04bdef74, 0x04be8537, 0x04bf1afd, 0x04bfb0c9, 0x04c04699,
  0x04c0dc6d, 0x04c17247, 0x04c20824, 0x04c29e07, 0x04c333ee, 0x04c3c9da, 0x04c45fca, 0x04c4f5bf,
  0x04c58bb8, 0x04c621b6, 0x04c6b7b9, 0x04c74dc0, 0x04c7e3cc, 0x04c879dd, 0x04c90ff2, 0x04c9a60c,
  0x04ca3c2a, 0x04cad24d, 0x04cb6874, 0x04cbfea0, 0x04cc94d1, 0x04cd2b06, 0x04cdc140, 0x04ce577f,
  0x04ceedc2, 0x04cf8409, 0x04d01a55, 0x04d0b0a6, 0x04d146fb, 0x04d1dd55, 0x04d273b4, 0x04d30a17,
  0x04d3a07f, 0x04d436eb, 0x04d4cd5c, 0x04d563d1, 0x04d5fa4b, 0x04d690ca, 0x04d7274d, 0x04d7bdd5,
  0x04d85461, 0x04d8eaf2, 0x04d98187, 0x04da1821, 0x04daaec0, 0x04db4563, 0x04dbdc0a, 0x04dc72b7,
  0x04dd0967, 0x04dda01d, 0x04de36d7, 0x04decd95, 0x04df6458, 0x04dffb20, 0x04e091ec, 0x04e128bc,
  0x04e1bf92, 0x04e2566b, 0x04e2ed4a, 0x04e3842d, 0x04e41b14, 0x04e4b200, 0x04e548f1, 0x04e5dfe6,
  0x04e676df, 0x04e70dde, 0x04e7a4e0, 0x04e83be7, 0x04e8d2f3, 0x04e96a04, 0x04ea0118, 0x04ea9832,
  0x04eb2f50, 0x04ebc672, 0x04ec5d99, 0x04ecf4c5, 0x04ed8bf5, 0x04ee2329, 0x04eeba63, 0x04ef51a0,
  0x04efe8e2, 0x04f08029, 0x04f11774, 0x04f1aec4, 0x04f24618, 0x04f2dd71, 0x04f374cf, 0x04f40c30,
  0x04f4a397, 0x04f53b02, 0x04f5d271, 0x04f669e5, 0x04f7015d, 0x04f798da, 0x04f8305c, 0x04f8c7e2,
  0x04f95f6c, 0x04f9f6fb, 0x04fa8e8f, 0x04fb2627, 0x04fbbdc3, 0x04fc5564, 0x04fced0a, 0x04fd84b4,
  0x04fe1c62, 0x04feb415, 0x04ff4bcd, 0x04ffe389, 0x05007b49, 0x0501130e, 0x0501aad8, 0x050242a6,
  0x0502da78, 0x0503724f, 0x05040a2b, 0x0504a20b, 0x050539ef, 0x0505d1d8, 0x050669c5, 0x050701b7,
  0x050799ae, 0x050831a9, 0x0508c9a8, 0x050961ac, 0x0509f9b4, 0x050a91c1, 0x050b29d2, 0x050bc1e8,
  0x050c5a02, 0x050cf221, 0x050d8a44, 0x050e226c, 0x050eba98, 0x050f52c9, 0x050feafe, 0x05108337,
  0x05111b75, 0x0511b3b8, 0x05124bff, 0x0512e44a, 0x05137c9a, 0x051414ee, 0x0514ad47, 0x051545a5,
  0x0515de06, 0x0516766d, 0x05170ed7, 0x0517a746, 0x05183fba, 0x0518d832, 0x051970ae, 0x051a092f,
  0x051aa1b5, 0x051b3a3f, 0x051bd2cd, 0x051c6b60, 0x051d03f7, 0x051d9c92, 0x051e3532, 0x051ecdd7,
  0x051f6680, 0x051fff2d, 0x052097df, 0x05213095, 0x0521c950, 0x0522620f, 0x0522fad3, 0x0523939b,
  0x05242c68, 0x0524c538, 0x05255e0e, 0x0525f6e8, 0x05268fc6, 0x052728a9, 0x0527c190, 0x05285a7b]

def rqMantissas17B : List ℕ := [
  0x0528f36b, 0x05298c5f, 0x052a2558, 0x052abe55, 0x052b5757, 0x052bf05d, 0x052c8968, 0x052d2277,
  0x052dbb8a, 0x052e54a2, 0x052eedbe, 0x052f86de, 0x05302003, 0x0530b92d, 0x0531525b, 0x0531eb8d,
  0x053284c4, 0x05331dff, 0x0533b73e, 0x05345082, 0x0534e9ca, 0x05358317, 0x05361c68, 0x0536b5be,
  0x05374f17, 0x0537e876, 0x053881d9, 0x05391b40, 0x0539b4ab, 0x053a4e1b, 0x053ae78f, 0x053b8108,
  0x053c1a85, 0x053cb407, 0x053d4d8d, 0x053de717, 0x053e80a6, 0x053f1a39, 0x053fb3d0, 0x05404d6c,
  0x0540e70c, 0x054180b1, 0x05421a5a, 0x0542b407, 0x05434db9, 0x0543e76f, 0x0544812a, 0x05451ae9,
  0x0545b4ac, 0x05464e74, 0x0546e840, 0x05478211, 0x05481be5, 0x0548b5bf, 0x05494f9c, 0x0549e97e,
  0x054a8364, 0x054b1d4f, 0x054bb73e, 0x054c5132, 0x054ceb2a, 0x054d8526, 0x054e1f26, 0x054eb92b,
  0x054f5334, 0x054fed42, 0x05508754, 0x0551216b, 0x0551bb85, 0x055255a4, 0x0552efc8, 0x055389f0,
  0x0554241c, 0x0554be4c, 0x05555881, 0x0555f2ba, 0x05568cf8, 0x0557273a, 0x0557c180, 0x05585bcb,
  0x0558f61a, 0x0559906d, 0x055a2ac5, 0x055ac521, 0x055b5f81, 0x055bf9e6, 0x055c944f, 0x055d2ebd,
  0x055dc92e, 0x055e63a5, 0x055efe1f, 0x055f989e, 0x05603321, 0x0560cda8, 0x05616834, 0x056202c4,
  0x05629d59, 0x056337f2, 0x0563d28f, 0x05646d30, 0x056507d6, 0x0565a280, 0x05663d2f, 0x0566d7e1,
  0x05677298, 0x05680d54, 0x0568a814, 0x056942d8, 0x0569dda0, 0x056a786d, 0x056b133e, 0x056bae13,
  0x056c48ed, 0x056ce3cb, 0x056d7ead, 0x056e1994, 0x056eb47f, 0x056f4f6e, 0x056fea62, 0x0570855a,
  0x05712056, 0x0571bb56, 0x0572565b, 0x0572f164, 0x05738c72, 0x05742784, 0x0574c29a, 0x05755db4,
  0x0575f8d3, 0x057693f6, 0x05772f1d, 0x0577ca49, 0x05786578, 0x057900ad, 0x05799be5, 0x057a3722,
  0x057ad263, 0x057b6da8, 0x057c08f2, 0x057ca440, 0x057d3f92, 0x057ddae9, 0x057e7644, 0x057f11a3,
  0x057fad06, 0x0580486e, 0x0580e3da, 0x05817f4a, 0x05821abf, 0x0582b638, 0x058351b5, 0x0583ed36,
  0x058488bc, 0x05852446, 0x0585bfd4, 0x05865b67, 0x0586f6fd, 0x05879298, 0x05882e38, 0x0588c9dc,
  0x05896583, 0x058a0130, 0x058a9ce0, 0x058b3895, 0x058bd44e, 0x058c700b, 0x058d0bcd, 0x058da793,
  0x058e435d, 0x058edf2b, 0x058f7afe, 0x059016d5, 0x0590b2b0, 0x05914e8f, 0x0591ea73, 0x0592865b,
  0x05932247, 0x0593be37, 0x05945a2c, 0x0594f625, 0x05959222, 0x05962e24, 0x0596ca2a, 0x05976634,
  0x05980242, 0x05989e54, 0x05993a6b, 0x0599d686, 0x059a72a5, 0x059b0ec9, 0x059baaf1, 0x059c471d,
  0x059ce34d, 0x059d7f81, 0x059e1bba, 0x059eb7f7, 0x059f5438, 0x059ff07e, 0x05a08cc7, 0x05a12915,
  0x05a1c567, 0x05a261be, 0x05a2fe18, 0x05a39a77, 0x05a436da, 0x05a4d342, 0x05a56fad, 0x05a60c1d,
  0x05a6a891, 0x05a7450a, 0x05a7e186, 0x05a87e07, 0x05a91a8c, 0x05a9b715, 0x05aa53a2, 0x05aaf034,
  0x05ab8cca, 0x05ac2964, 0x05acc602, 0x05ad62a5, 0x05adff4c, 0x05ae9bf7, 0x05af38a6, 0x05afd559,
  0x05b07211, 0x05b10ecd, 0x05b1ab8d, 0x05b24851, 0x05b2e51a, 0x05b381e6, 0x05b41eb7, 0x05b4bb8c,
  0x05b55866, 0x05b5f543, 0x05b69225, 0x05b72f0b, 0x05b7cbf5, 0x05b868e3, 0x05b905d6, 0x05b9a2cd,
  0x05ba3fc8, 0x05badcc7, 0x05bb79ca, 0x05bc16d2, 0x05bcb3de, 0x05bd50ee, 0x05bdee02, 0x05be8b1a,
  0x05bf2837, 0x05bfc558, 0x05c0627d, 0x05c0ffa6, 0x05c19cd3, 0x05c23a05, 0x05c2d73a, 0x05c37474,
  0x05c411b2, 0x05c4aef5, 0x05c54c3b, 0x05c5e986, 0x05c686d5, 0x05c72428, 0x05c7c17f, 0x05c85eda,
  0x05c8fc3a, 0x05c9999e, 0x05ca3706, 0x05cad472, 0x05cb71e2, 0x05cc0f57, 0x05ccaccf, 0x05cd4a4c,
  0x05cde7cd, 0x05ce8552, 0x05cf22dc, 0x05cfc069, 0x05d05dfb, 0x05d0fb91, 0x05d1992b, 0x05d236c9,
  0x05d2d46c, 0x05d37212, 0x05d40fbd, 0x05d4ad6c, 0x05d54b1f, 0x05d5e8d6, 0x05d68691, 0x05d72451,
  0x05d7c215, 0x05d85fdc, 0x05d8fda8, 0x05d99b79, 0x05da394d, 0x05dad726, 0x05db7502, 0x05dc12e3,
  0x05dcb0c8, 0x05dd4eb1, 0x05ddec9e, 0x05de8a90, 0x05df2885, 0x05dfc67f, 0x05e0647d, 0x05e1027f,
  0x05e1a085, 0x05e23e8f, 0x05e2dc9e, 0x05e37ab0, 0x05e418c7, 0x05e4b6e2, 0x05e55501, 0x05e5f324,
  0x05e6914c, 0x05e72f77, 0x05e7cda7, 0x05e86bda, 0x05e90a12, 0x05e9a84e, 0x05ea468e, 0x05eae4d3,
  0x05eb831b, 0x05ec2168, 0x05ecbfb8, 0x05ed5e0d, 0x05edfc66, 0x05ee9ac3, 0x05ef3924, 0x05efd78a,
  0x05f075f3, 0x05f11461, 0x05f1b2d3, 0x05f25148, 0x05f2efc2, 0x05f38e40, 0x05f42cc3, 0x05f4cb49,
  0x05f569d3, 0x05f60862, 0x05f6a6f5, 0x05f7458b, 0x05f7e426, 0x05f882c5, 0x05f92169, 0x05f9c010,
  0x05fa5ebb, 0x05fafd6b, 0x05fb9c1e, 0x05fc3ad6, 0x05fcd992, 0x05fd7852, 0x05fe1716, 0x05feb5de,
  0x05ff54aa, 0x05fff37b, 0x0600924f, 0x06013128, 0x0601d004, 0x06026ee5, 0x06030dca, 0x0603acb3,
  0x06044ba0, 0x0604ea91, 0x06058987, 0x06062880, 0x0606c77d, 0x0607667f, 0x06080585, 0x0608a48f,
  0x0609439c, 0x0609e2ae, 0x060a81c4, 0x060b20df, 0x060bbffd, 0x060c5f1f, 0x060cfe46, 0x060d9d70,
  0x060e3c9f, 0x060edbd1, 0x060f7b08, 0x06101a43, 0x0610b982, 0x061158c5, 0x0611f80c, 0x06129757,
  0x061336a6, 0x0613d5fa, 0x06147551, 0x061514ad, 0x0615b40c, 0x06165370, 0x0616f2d8, 0x06179243,
  0x061831b3, 0x0618d127, 0x0619709f, 0x061a101b, 0x061aaf9c, 0x061b4f20, 0x061beea8, 0x061c8e34,
  0x061d2dc5, 0x061dcd59, 0x061e6cf2, 0x061f0c8f, 0x061fac2f, 0x06204bd4, 0x0620eb7d, 0x06218b2a,
  0x06222adb, 0x0622ca90, 0x06236a49, 0x06240a06, 0x0624a9c7, 0x0625498d, 0x0625e956, 0x06268923,
  0x062728f5, 0x0627c8ca, 0x062868a4, 0x06290881, 0x0629a863, 0x062a4849, 0x062ae832, 0x062b8820,
  0x062c2812, 0x062cc808, 0x062d6802, 0x062e0800, 0x062ea802, 0x062f4808, 0x062fe812, 0x06308820,
  0x06312832, 0x0631c849, 0x06326863, 0x06330881, 0x0633a8a3, 0x063448ca, 0x0634e8f4, 0x06358923,
  0x06362955, 0x0636c98c, 0x063769c6, 0x06380a05, 0x0638aa48, 0x06394a8e, 0x0639ead9, 0x063a8b28,
  0x063b2b7b, 0x063bcbd1, 0x063c6c2c, 0x063d0c8b, 0x063dacee, 0x063e4d55, 0x063eedc0, 0x063f8e2f,
  0x06402ea2, 0x0640cf19, 0x06416f94, 0x06421013, 0x0642b096, 0x0643511d, 0x0643f1a8, 0x06449237,
  0x064532ca, 0x0645d361, 0x064673fc, 0x0647149c, 0x0647b53f, 0x064855e6, 0x0648f691, 0x06499740,
  0x064a37f4, 0x064ad8ab, 0x064b7966, 0x064c1a25, 0x064cbae9, 0x064d5bb0, 0x064dfc7b, 0x064e9d4b,
  0x064f3e1e, 0x064fdef5, 0x06507fd0, 0x065120b0, 0x0651c193, 0x0652627a, 0x06530366, 0x0653a455,
  0x06544548, 0x0654e640, 0x0655873b, 0x0656283a, 0x0656c93d, 0x06576a45, 0x06580b50, 0x0658ac5f,
  0x06594d73, 0x0659ee8a, 0x065a8fa5, 0x065b30c4, 0x065bd1e7, 0x065c730f, 0x065d143a, 0x065db569,
  0x065e569c, 0x065ef7d3, 0x065f990e, 0x06603a4e, 0x0660db91, 0x06617cd8, 0x06621e23, 0x0662bf72]

def rqMantissas17C : List ℕ := [
  0x066360c5, 0x0664021c, 0x0664a377, 0x066544d6, 0x0665e639, 0x066687a0, 0x0667290b, 0x0667ca79,
  0x06686bec, 0x06690d63, 0x0669aede, 0x066a505d, 0x066af1df, 0x066b9366, 0x066c34f1, 0x066cd67f,
  0x066d7812, 0x066e19a9, 0x066ebb43, 0x066f5ce2, 0x066ffe84, 0x0670a02a, 0x067141d5, 0x0671e383,
  0x06728535, 0x067326ec, 0x0673c8a6, 0x06746a64, 0x06750c26, 0x0675adec, 0x06764fb6, 0x0676f184,
  0x06779356, 0x0678352c, 0x0678d706, 0x067978e4, 0x067a1ac6, 0x067abcac, 0x067b5e95, 0x067c0083,
  0x067ca275, 0x067d446a, 0x067de664, 0x067e8861, 0x067f2a62, 0x067fcc68, 0x06806e71, 0x0681107e,
  0x0681b28f, 0x068254a4, 0x0682f6bd, 0x068398da, 0x06843afb, 0x0684dd20, 0x06857f49, 0x06862176,
  0x0686c3a6, 0x068765db, 0x06880814, 0x0688aa50, 0x06894c90, 0x0689eed5, 0x068a911d, 0x068b3369,
  0x068bd5b9, 0x068c780e, 0x068d1a66, 0x068dbcc1, 0x068e5f21, 0x068f0185, 0x068fa3ed, 0x06904658,
  0x0690e8c8, 0x06918b3c, 0x06922db3, 0x0692d02e, 0x069372ae, 0x06941531, 0x0694b7b8, 0x06955a43,
  0x0695fcd2, 0x06969f65, 0x069741fb, 0x0697e496, 0x06988735, 0x069929d7, 0x0699cc7e, 0x069a6f28,
  0x069b11d6, 0x069bb489, 0x069c573f, 0x069cf9f9, 0x069d9cb7, 0x069e3f78, 0x069ee23e, 0x069f8508,
  0x06a027d5, 0x06a0caa7, 0x06a16d7c, 0x06a21055, 0x06a2b333, 0x06a35614, 0x06a3f8f9, 0x06a49be2,
  0x06a53ece, 0x06a5e1bf, 0x06a684b4, 0x06a727ac, 0x06a7caa9, 0x06a86da9, 0x06a910ad, 0x06a9b3b5,
  0x06aa56c1, 0x06aaf9d1, 0x06ab9ce5, 0x06ac3ffc, 0x06ace318, 0x06ad8637, 0x06ae295b, 0x06aecc82,
  0x06af6fad, 0x06b012dc, 0x06b0b60f, 0x06b15946, 0x06b1fc81, 0x06b29fbf, 0x06b34302, 0x06b3e648,
  0x06b48992, 0x06b52ce0, 0x06b5d032, 0x06b67388, 0x06b716e2, 0x06b7ba3f, 0x06b85da1, 0x06b90106,
  0x06b9a470, 0x06ba47dd, 0x06baeb4e, 0x06bb8ec3, 0x06bc323b, 0x06bcd5b8, 0x06bd7939, 0x06be1cbd,
  0x06bec045, 0x06bf63d1, 0x06c00761, 0x06c0aaf5, 0x06c14e8d, 0x06c1f229, 0x06c295c8, 0x06c3396c,
  0x06c3dd13, 0x06c480be, 0x06c5246d, 0x06c5c820, 0x06c66bd6, 0x06c70f91, 0x06c7b34f, 0x06c85712,
  0x06c8fad8, 0x06c99ea2, 0x06ca4270, 0x06cae641, 0x06cb8a17, 0x06cc2df0, 0x06ccd1ce, 0x06cd75af,
  0x06ce1994, 0x06cebd7d, 0x06cf6169, 0x06d0055a, 0x06d0a94e, 0x06d14d47, 0x06d1f143, 0x06d29543,
  0x06d33947, 0x06d3dd4e, 0x06d4815a, 0x06d52569, 0x06d5c97c, 0x06d66d93, 0x06d711ae, 0x06d7b5cd,
  0x06d859f0, 0x06d8fe16, 0x06d9a240, 0x06da466f, 0x06daeaa1, 0x06db8ed6, 0x06dc3310, 0x06dcd74d,
  0x06dd7b8f, 0x06de1fd4, 0x06dec41d, 0x06df686a, 0x06e00cbb, 0x06e0b10f, 0x06e15567, 0x06e1f9c4,
  0x06e29e24, 0x06e34287, 0x06e3e6ef, 0x06e48b5b, 0x06e52fca, 0x06e5d43d, 0x06e678b4, 0x06e71d2f,
  0x06e7c1ae, 0x06e86630, 0x06e90ab7, 0x06e9af41, 0x06ea53cf, 0x06eaf860, 0x06eb9cf6, 0x06ec418f,
  0x06ece62d, 0x06ed8ace, 0x06ee2f73, 0x06eed41b, 0x06ef78c8, 0x06f01d78, 0x06f0c22c, 0x06f166e4,
  0x06f20ba0, 0x06f2b060, 0x06f35523, 0x06f3f9eb, 0x06f49eb6, 0x06f54385, 0x06f5e857, 0x06f68d2e,
  0x06f73208, 0x06f7d6e6, 0x06f87bc8, 0x06f920ae, 0x06f9c597, 0x06fa6a85, 0x06fb0f76, 0x06fbb46b,
  0x06fc5964, 0x06fcfe60, 0x06fda361, 0x06fe4865, 0x06feed6d, 0x06ff9279, 0x07003788, 0x0700dc9c,
  0x070181b3, 0x070226ce, 0x0702cbed, 0x0703710f, 0x07041636, 0x0704bb60, 0x0705608e, 0x070605c0,
  0x0706aaf5, 0x0707502f, 0x0707f56c, 0x07089aad, 0x07093ff2, 0x0709e53a, 0x070a8a86, 0x070b2fd7,
  0x070bd52a, 0x070c7a82, 0x070d1fde, 0x070dc53d, 0x070e6aa0, 0x070f1007, 0x070fb571, 0x07105ae0,
  0x07110052, 0x0711a5c8, 0x07124b42, 0x0712f0bf, 0x07139641, 0x07143bc6, 0x0714e14f, 0x071586db,
  0x07162c6c, 0x0716d200, 0x07177798, 0x07181d34, 0x0718c2d3, 0x07196877, 0x071a0e1e, 0x071ab3c9,
  0x071b5977, 0x071bff2a, 0x071ca4e0, 0x071d4a9a, 0x071df058, 0x071e9619, 0x071f3bde, 0x071fe1a8,
  0x07208774, 0x07212d45, 0x0721d319, 0x072278f1, 0x07231ecd, 0x0723c4ad, 0x07246a90, 0x07251077,
  0x0725b662, 0x07265c51, 0x07270244, 0x0727a83a, 0x07284e34, 0x0728f431, 0x07299a33, 0x072a4038,
  0x072ae641, 0x072b8c4e, 0x072c325e, 0x072cd873, 0x072d7e8b, 0x072e24a7, 0x072ecac6, 0x072f70e9,
  0x07301710, 0x0730bd3b, 0x0731636a, 0x0732099c, 0x0732afd2, 0x0733560c, 0x0733fc49, 0x0734a28b,
  0x073548d0, 0x0735ef18, 0x07369565, 0x07373bb5, 0x0737e209, 0x07388861, 0x07392ebc, 0x0739d51c,
  0x073a7b7f, 0x073b21e5, 0x073bc850, 0x073c6ebe, 0x073d1530, 0x073dbba6, 0x073e621f, 0x073f089c,
  0x073faf1d, 0x074055a2, 0x0740fc2a, 0x0741a2b6, 0x07424946, 0x0742efd9, 0x07439671, 0x07443d0c,
  0x0744e3aa, 0x07458a4d, 0x074630f3, 0x0746d79d, 0x07477e4b, 0x074824fc, 0x0748cbb1, 0x0749726a,
  0x074a1927, 0x074abfe7, 0x074b66ab, 0x074c0d73, 0x074cb43e, 0x074d5b0d, 0x074e01e0, 0x074ea8b7,
  0x074f4f91, 0x074ff66f, 0x07509d51, 0x07514437, 0x0751eb20, 0x0752920d, 0x075338fd, 0x0753dff2,
  0x075486ea, 0x07552de6, 0x0755d4e5, 0x07567be8, 0x075722ef, 0x0757c9fa, 0x07587108, 0x0759181a,
  0x0759bf30, 0x075a664a, 0x075b0d67, 0x075bb488, 0x075c5bac, 0x075d02d5, 0x075daa01, 0x075e5130,
  0x075ef864, 0x075f9f9b, 0x076046d6, 0x0760ee14, 0x07619557, 0x07623c9d, 0x0762e3e6, 0x07638b34,
  0x07643285, 0x0764d9d9, 0x07658132, 0x0766288e, 0x0766cfee, 0x07677751, 0x07681eb9, 0x0768c624,
  0x07696d92, 0x076a1505, 0x076abc7b, 0x076b63f4, 0x076c0b72, 0x076cb2f3, 0x076d5a78, 0x076e0200,
  0x076ea98c, 0x076f511c, 0x076ff8b0, 0x0770a047, 0x077147e2, 0x0771ef80, 0x07729723, 0x07733ec9,
  0x0773e672, 0x07748e20, 0x077535d1, 0x0775dd85, 0x0776853e, 0x07772cfa, 0x0777d4ba, 0x07787c7d,
  0x07792444, 0x0779cc0f, 0x077a73dd, 0x077b1baf, 0x077bc385, 0x077c6b5f, 0x077d133c, 0x077dbb1d,
  0x077e6301, 0x077f0ae9, 0x077fb2d5, 0x07805ac5, 0x078102b8, 0x0781aaaf, 0x078252aa, 0x0782faa8,
  0x0783a2aa, 0x07844aaf, 0x0784f2b8, 0x07859ac5, 0x078642d6, 0x0786eaea, 0x07879302, 0x07883b1e,
  0x0788e33d, 0x07898b60, 0x078a3386, 0x078adbb0, 0x078b83de, 0x078c2c10, 0x078cd445, 0x078d7c7e,
  0x078e24ba, 0x078eccfb, 0x078f753e, 0x07901d86, 0x0790c5d1, 0x07916e20, 0x07921672, 0x0792bec8,
  0x07936722, 0x07940f80, 0x0794b7e1, 0x07956045, 0x079608ae, 0x0796b11a, 0x0797598a, 0x079801fd,
  0x0798aa74, 0x079952ee, 0x0799fb6d, 0x079aa3ef, 0x079b4c74, 0x079bf4fd, 0x079c9d8a, 0x079d461b,
  0x079deeaf, 0x079e9747, 0x079f3fe2, 0x079fe881, 0x07a09124, 0x07a139ca, 0x07a1e274, 0x07a28b22,
  0x07a333d3, 0x07a3dc88, 0x07a48541, 0x07a52dfd, 0x07a5d6bd, 0x07a67f80, 0x07a72847, 0x07a7d112,
  0x07a879e1, 0x07a922b3, 0x07a9cb88, 0x07aa7462, 0x07ab1d3e, 0x07abc61f, 0x07ac6f03, 0x07ad17eb]

def rqMantissas17D : List ℕ := [
  0x07adc0d6, 0x07ae69c6, 0x07af12b8, 0x07afbbaf, 0x07b064a8, 0x07b10da6, 0x07b1b6a7, 0x07b25fac,
  0x07b308b5, 0x07b3b1c1, 0x07b45ad0, 0x07b503e4, 0x07b5acfb, 0x07b65615, 0x07b6ff33, 0x07b7a855,
  0x07b8517b, 0x07b8faa4, 0x07b9a3d0, 0x07ba4d01, 0x07baf635, 0x07bb9f6c, 0x07bc48a7, 0x07bcf1e6,
  0x07bd9b28, 0x07be446e, 0x07beedb8, 0x07bf9705, 0x07c04056, 0x07c0e9aa, 0x07c19302, 0x07c23c5e,
  0x07c2e5bd, 0x07c38f20, 0x07c43887, 0x07c4e1f1, 0x07c58b5f, 0x07c634d0, 0x07c6de45, 0x07c787bd,
  0x07c83139, 0x07c8dab9, 0x07c9843c, 0x07ca2dc3, 0x07cad74e, 0x07cb80dc, 0x07cc2a6e, 0x07ccd403,
  0x07cd7d9c, 0x07ce2739, 0x07ced0d9, 0x07cf7a7d, 0x07d02424, 0x07d0cdcf, 0x07d1777e, 0x07d22130,
  0x07d2cae5, 0x07d3749f, 0x07d41e5c, 0x07d4c81c, 0x07d571e0, 0x07d61ba8, 0x07d6c573, 0x07d76f42,
  0x07d81915, 0x07d8c2eb, 0x07d96cc4, 0x07da16a2, 0x07dac083, 0x07db6a67, 0x07dc144f, 0x07dcbe3b,
  0x07dd682a, 0x07de121d, 0x07debc13, 0x07df660d, 0x07e0100a, 0x07e0ba0c, 0x07e16410, 0x07e20e19,
  0x07e2b824, 0x07e36234, 0x07e40c47, 0x07e4b65e, 0x07e56078, 0x07e60a95, 0x07e6b4b7, 0x07e75edc,
  0x07e80904, 0x07e8b330, 0x07e95d60, 0x07ea0793, 0x07eab1ca, 0x07eb5c04, 0x07ec0642, 0x07ecb084,
  0x07ed5ac9, 0x07ee0512, 0x07eeaf5e, 0x07ef59ae, 0x07f00401, 0x07f0ae58, 0x07f158b3, 0x07f20311,
  0x07f2ad72, 0x07f357d8, 0x07f40240, 0x07f4acad, 0x07f5571d, 0x07f60190, 0x07f6ac07, 0x07f75682,
  0x07f80100, 0x07f8ab82, 0x07f95607, 0x07fa0090, 0x07faab1c, 0x07fb55ac, 0x07fc0040, 0x07fcaad7,
  0x07fd5572, 0x07fe0010, 0x07feaab2, 0x07ff5557]

def rqMantissas18A : List ℕ := [
  0x04000000, 0x04005556, 0x0400aaae, 0x04010008, 0x04015563, 0x0401aac1, 0x04020020, 0x04025581,
  0x0402aae3, 0x04030048, 0x040355ae, 0x0403ab16, 0x04040080, 0x040455eb, 0x0404ab59, 0x040500c8,
  0x04055638, 0x0405abab, 0x0406011f, 0x04065696, 0x0406ac0e, 0x04070187, 0x04075703, 0x0407ac80,
  0x040801ff, 0x04085780, 0x0408ad02, 0x04090287, 0x0409580d, 0x0409ad95, 0x040a031e, 0x040a58aa,
  0x040aae37, 0x040b03c6, 0x040b5957, 0x040baee9, 0x040c047e, 0x040c5a14, 0x040cafab, 0x040d0545,
  0x040d5ae0, 0x040db07d, 0x040e061c, 0x040e5bbd, 0x040eb15f, 0x040f0703, 0x040f5ca9, 0x040fb251,
  0x041007fa, 0x04105da6, 0x0410b353, 0x04110901, 0x04115eb2, 0x0411b464, 0x04120a18, 0x04125fce,
  0x0412b586, 0x04130b3f, 0x041360fa, 0x0413b6b7, 0x04140c75, 0x04146236, 0x0414b7f8, 0x04150dbc,
  0x04156381, 0x0415b949, 0x04160f12, 0x041664dd, 0x0416baaa, 0x04171078, 0x04176648, 0x0417bc1a,
  0x041811ee, 0x041867c3, 0x0418bd9b, 0x04191374, 0x0419694e, 0x0419bf2b, 0x041a1509, 0x041a6ae9,
  0x041ac0cb, 0x041b16ae, 0x041b6c94, 0x041bc27b, 0x041c1863, 0x041c6e4e, 0x041cc43a, 0x041d1a28,
  0x041d7018, 0x041dc60a, 0x041e1bfd, 0x041e71f2, 0x041ec7e9, 0x041f1de1, 0x041f73dc, 0x041fc9d8,
  0x04201fd5, 0x042075d5, 0x0420cbd6, 0x042121d9, 0x042177de, 0x0421cde5, 0x042223ed, 0x042279f7,
  0x0422d003, 0x04232611, 0x04237c20, 0x0423d231, 0x04242844, 0x04247e58, 0x0424d46e, 0x04252a87,
  0x042580a0, 0x0425d6bc, 0x04262cd9, 0x042682f8, 0x0426d919, 0x04272f3b, 0x04278560, 0x0427db86,
  0x042831ad, 0x042887d7, 0x0428de02, 0x0429342f, 0x04298a5e, 0x0429e08e, 0x042a36c0, 0x042a8cf4,
  0x042ae32a, 0x042b3962, 0x042b8f9b, 0x042be5d6, 0x042c3c12, 0x042c9251, 0x042ce891, 0x042d3ed3,
  0x042d9516, 0x042deb5c, 0x042e41a3, 0x042e97ec, 0x042eee36, 0x042f4482, 0x042f9ad1, 0x042ff120,
  0x04304772, 0x04309dc5, 0x0430f41a, 0x04314a71, 0x0431a0c9, 0x0431f723, 0x04324d7f, 0x0432a3dd,
  0x0432fa3d, 0x0433509e, 0x0433a701, 0x0433fd65, 0x043453cc, 0x0434aa34, 0x0435009d, 0x04355709,
  0x0435ad76, 0x043603e5, 0x04365a56, 0x0436b0c9, 0x0437073d, 0x04375db3, 0x0437b42a, 0x04380aa4,
  0x0438611f, 0x0438b79c, 0x04390e1a, 0x0439649b, 0x0439bb1d, 0x043a11a1, 0x043a6826, 0x043abead,
  0x043b1536, 0x043b6bc1, 0x043bc24d, 0x043c18dc, 0x043c6f6c, 0x043cc5fd, 0x043d1c91, 0x043d7326,
  0x043dc9bc, 0x043e2055, 0x043e76ef, 0x043ecd8b, 0x043f2429, 0x043f7ac8, 0x043fd169, 0x0440280c,
  0x04407eb1, 0x0440d557, 0x04412bff, 0x044182a9, 0x0441d955, 0x04423002, 0x044286b1, 0x0442dd61,
  0x04433414, 0x04438ac8, 0x0443e17e, 0x04443835, 0x04448eef, 0x0444e5aa, 0x04453c66, 0x04459325,
  0x0445e9e5, 0x044640a7, 0x0446976a, 0x0446ee30, 0x044744f7, 0x04479bc0, 0x0447f28a, 0x04484956,
  0x0448a024, 0x0448f6f4, 0x04494dc5, 0x0449a498, 0x0449fb6d, 0x044a5243, 0x044aa91c, 0x044afff6,
  0x044b56d1, 0x044badaf, 0x044c048e, 0x044c5b6f, 0x044cb251, 0x044d0935, 0x044d601b, 0x044db703,
  0x044e0dec, 0x044e64d7, 0x044ebbc4, 0x044f12b3, 0x044f69a3, 0x044fc095, 0x04501788, 0x04506e7e,
  0x0450c575, 0x04511c6e, 0x04517368, 0x0451ca64, 0x04522162, 0x04527862, 0x0452cf63, 0x04532666,
  0x04537d6b, 0x0453d472, 0x04542b7a, 0x04548284, 0x0454d98f, 0x0455309c, 0x045587ab, 0x0455debc,
  0x045635cf, 0x04568ce3, 0x0456e3f9, 0x04573b10, 0x04579229, 0x0457e944, 0x04584061, 0x0458977f,
  0x0458ee9f, 0x045945c1, 0x04599ce5, 0x0459f40a, 0x045a4b31, 0x045aa259, 0x045af984, 0x045b50b0,
  0x045ba7dd, 0x045bff0d, 0x045c563e, 0x045cad71, 0x045d04a5, 0x045d5bdc, 0x045db313, 0x045e0a4d,
  0x045e6188, 0x045eb8c5, 0x045f1004, 0x045f6745, 0x045fbe87, 0x046015cb, 0x04606d10, 0x0460c457,
  0x04611ba0, 0x046172eb, 0x0461ca37, 0x04622185, 0x046278d5, 0x0462d026, 0x0463277a, 0x04637ece,
  0x0463d625, 0x04642d7d, 0x046484d7, 0x0464dc33, 0x04653390, 0x04658aef, 0x0465e250, 0x046639b2,
  0x04669116, 0x0466e87c, 0x04673fe3, 0x0467974d, 0x0467eeb7, 0x04684624, 0x04689d92, 0x0468f502,
  0x04694c74, 0x0469a3e7, 0x0469fb5c, 0x046a52d3, 0x046aaa4b, 0x046b01c5, 0x046b5941, 0x046bb0bf,
  0x046c083e, 0x046c5fbf, 0x046cb741, 0x046d0ec5, 0x046d664b, 0x046dbdd3, 0x046e155c, 0x046e6ce7,
  0x046ec474, 0x046f1c02, 0x046f7392, 0x046fcb24, 0x047022b8, 0x04707a4d, 0x0470d1e4, 0x0471297c,
  0x04718116, 0x0471d8b2, 0x04723050, 0x047287ef, 0x0472df90, 0x04733733, 0x04738ed7, 0x0473e67d,
  0x04743e25, 0x047495ce, 0x0474ed79, 0x04754526, 0x04759cd4, 0x0475f484, 0x04764c36, 0x0476a3ea,
  0x0476fb9f, 0x04775356, 0x0477ab0e, 0x047802c8, 0x04785a84, 0x0478b242, 0x04790a01, 0x047961c2,
  0x0479b984, 0x047a1149, 0x047a690f, 0x047ac0d6, 0x047b18a0, 0x047b706b, 0x047bc837, 0x047c2006,
  0x047c77d6, 0x047ccfa8, 0x047d277b, 0x047d7f50, 0x047dd727, 0x047e2eff, 0x047e86d9, 0x047edeb5,
  0x047f3693, 0x047f8e72, 0x047fe653, 0x04803e35, 0x04809619, 0x0480edff, 0x048145e7, 0x04819dd0,
  0x0481f5bb, 0x04824da7, 0x0482a595, 0x0482fd85, 0x04835577, 0x0483ad6a, 0x0484055f, 0x04845d56,
  0x0484b54e, 0x04850d48, 0x04856544, 0x0485bd41, 0x04861540, 0x04866d40, 0x0486c543, 0x04871d47,
  0x0487754c, 0x0487cd54, 0x0488255d, 0x04887d67, 0x0488d574, 0x04892d82, 0x04898591, 0x0489dda3,
  0x048a35b6, 0x048a8dca, 0x048ae5e1, 0x048b3df9, 0x048b9612, 0x048bee2e, 0x048c464b, 0x048c9e69,
  0x048cf68a, 0x048d4eac, 0x048da6cf, 0x048dfef5, 0x048e571c, 0x048eaf44, 0x048f076f, 0x048f5f9b,
  0x048fb7c8, 0x04900ff8, 0x04906829, 0x0490c05b, 0x04911890, 0x049170c6, 0x0491c8fd, 0x04922137,
  0x04927972, 0x0492d1ae, 0x049329ed, 0x0493822c, 0x0493da6e, 0x049432b1, 0x04948af6, 0x0494e33d,
  0x04953b85, 0x049593cf, 0x0495ec1b, 0x04964468, 0x04969cb7, 0x0496f508, 0x04974d5a, 0x0497a5ae,
  0x0497fe03, 0x0498565a, 0x0498aeb3, 0x0499070e, 0x04995f6a, 0x0499b7c8, 0x049a1027, 0x049a6889,
  0x049ac0eb, 0x049b1950, 0x049b71b6, 0x049bca1e, 0x049c2287, 0x049c7af2, 0x049cd35f, 0x049d2bce,
  0x049d843e, 0x049ddcaf, 0x049e3523, 0x049e8d98, 0x049ee60e, 0x049f3e87, 0x049f9701, 0x049fef7c,
  0x04a047fa, 0x04a0a079, 0x04a0f8f9, 0x04a1517c, 0x04a1a9ff, 0x04a20285, 0x04a25b0c, 0x04a2b395,
  0x04a30c20, 0x04a364ac, 0x04a3bd3a, 0x04a415c9, 0x04a46e5a, 0x04a4c6ed, 0x04a51f81, 0x04a57818,
  0x04a5d0af, 0x04a62949, 0x04a681e4, 0x04a6da80, 0x04a7331f, 0x04a78bbf, 0x04a7e460, 0x04a83d03,
  0x04a895a8, 0x04a8ee4f, 0x04a946f7, 0x04a99fa1, 0x04a9f84c, 0x04aa50fa, 0x04aaa9a8, 0x04ab0259,
  0x04ab5b0b, 0x04abb3bf, 0x04ac0c74, 0x04ac652b, 0x04acbde4, 0x04ad169e, 0x04ad6f5a, 0x04adc818]

def rqMantissas18B : List ℕ := [
  0x04ae20d7, 0x04ae7998, 0x04aed25a, 0x04af2b1e, 0x04af83e4, 0x04afdcac, 0x04b03575, 0x04b08e40,
  0x04b0e70c, 0x04b13fda, 0x04b198aa, 0x04b1f17b, 0x04b24a4e, 0x04b2a322, 0x04b2fbf9, 0x04b354d1,
  0x04b3adaa, 0x04b40685, 0x04b45f62, 0x04b4b840, 0x04b51120, 0x04b56a02, 0x04b5c2e6, 0x04b61bcb,
  0x04b674b1, 0x04b6cd99, 0x04b72683, 0x04b77f6f, 0x04b7d85c, 0x04b8314b, 0x04b88a3b, 0x04b8e32d,
  0x04b93c21, 0x04b99516, 0x04b9ee0d, 0x04ba4706, 0x04baa000, 0x04baf8fc, 0x04bb51fa, 0x04bbaaf9,
  0x04bc03fa, 0x04bc5cfc, 0x04bcb600, 0x04bd0f06, 0x04bd680d, 0x04bdc116, 0x04be1a21, 0x04be732d,
  0x04becc3b, 0x04bf254a, 0x04bf7e5b, 0x04bfd76e, 0x04c03083, 0x04c08999, 0x04c0e2b0, 0x04c13bca,
  0x04c194e4, 0x04c1ee01, 0x04c2471f, 0x04c2a03f, 0x04c2f960, 0x04c35283, 0x04c3aba8, 0x04c404ce,
  0x04c45df6, 0x04c4b720, 0x04c5104b, 0x04c56978, 0x04c5c2a7, 0x04c61bd7, 0x04c67508, 0x04c6ce3c,
  0x04c72771, 0x04c780a7, 0x04c7d9df, 0x04c83319, 0x04c88c55, 0x04c8e592, 0x04c93ed1, 0x04c99811,
  0x04c9f153, 0x04ca4a97, 0x04caa3dc, 0x04cafd23, 0x04cb566b, 0x04cbafb5, 0x04cc0901, 0x04cc624e,
  0x04ccbb9d, 0x04cd14ee, 0x04cd6e40, 0x04cdc794, 0x04ce20e9, 0x04ce7a40, 0x04ced399, 0x04cf2cf3,
  0x04cf864f, 0x04cfdfad, 0x04d0390c, 0x04d0926d, 0x04d0ebcf, 0x04d14533, 0x04d19e99, 0x04d1f800,
  0x04d25169, 0x04d2aad4, 0x04d30440, 0x04d35dae, 0x04d3b71d, 0x04d4108e, 0x04d46a01, 0x04d4c375,
  0x04d51ceb, 0x04d57662, 0x04d5cfdb, 0x04d62956, 0x04d682d2, 0x04d6dc50, 0x04d735d0, 0x04d78f51,
  0x04d7e8d4, 0x04d84258, 0x04d89bde, 0x04d8f566, 0x04d94eef, 0x04d9a87a, 0x04da0207, 0x04da5b95,
  0x04dab524, 0x04db0eb6, 0x04db6849, 0x04dbc1dd, 0x04dc1b73, 0x04dc750b, 0x04dccea5, 0x04dd2840,
  0x04dd81dc, 0x04dddb7a, 0x04de351a, 0x04de8ebc, 0x04dee85f, 0x04df4203, 0x04df9baa, 0x04dff552,
  0x04e04efb, 0x04e0a8a6, 0x04e10253, 0x04e15c01, 0x04e1b5b1, 0x04e20f63, 0x04e26916, 0x04e2c2cb,
  0x04e31c81, 0x04e37639, 0x04e3cff3, 0x04e429ae, 0x04e4836b, 0x04e4dd29, 0x04e536e9, 0x04e590ab,
  0x04e5ea6e, 0x04e64433, 0x04e69df9, 0x04e6f7c1, 0x04e7518b, 0x04e7ab56, 0x04e80523, 0x04e85ef2,
  0x04e8b8c2, 0x04e91293, 0x04e96c67, 0x04e9c63b, 0x04ea2012, 0x04ea79ea, 0x04ead3c4, 0x04eb2d9f,
  0x04eb877c, 0x04ebe15b, 0x04ec3b3b, 0x04ec951c, 0x04ecef00, 0x04ed48e5, 0x04eda2cb, 0x04edfcb3,
  0x04ee569d, 0x04eeb088, 0x04ef0a75, 0x04ef6464, 0x04efbe54, 0x04f01846, 0x04f07239, 0x04f0cc2e,
  0x04f12624, 0x04f1801d, 0x04f1da16, 0x04f23412, 0x04f28e0f, 0x04f2e80d, 0x04f3420d, 0x04f39c0f,
  0x04f3f612, 0x04f45017, 0x04f4aa1e, 0x04f50426, 0x04f55e30, 0x04f5b83b, 0x04f61248, 0x04f66c56,
  0x04f6c666, 0x04f72078, 0x04f77a8b, 0x04f7d4a0, 0x04f82eb7, 0x04f888cf, 0x04f8e2e9, 0x04f93d04,
  0x04f99721, 0x04f9f13f, 0x04fa4b5f, 0x04faa581, 0x04faffa4, 0x04fb59c9, 0x04fbb3ef, 0x04fc0e17,
  0x04fc6841, 0x04fcc26c, 0x04fd1c99, 0x04fd76c7, 0x04fdd0f7, 0x04fe2b29, 0x04fe855c, 0x04fedf91,
  0x04ff39c7, 0x04ff93ff, 0x04ffee38, 0x05004874, 0x0500a2b0, 0x0500fcef, 0x0501572e, 0x0501b170,
  0x05020bb3, 0x050265f8, 0x0502c03e, 0x05031a86, 0x050374cf, 0x0503cf1a, 0x05042967, 0x050483b5,
  0x0504de05, 0x05053856, 0x050592a9, 0x0505ecfd, 0x05064754, 0x0506a1ab, 0x0506fc04, 0x0507565f,
  0x0507b0bc, 0x05080b1a, 0x05086579, 0x0508bfdb, 0x05091a3d, 0x050974a2, 0x0509cf08, 0x050a296f,
  0x050a83d8, 0x050ade43, 0x050b38af, 0x050b931d, 0x050bed8d, 0x050c47fe, 0x050ca271, 0x050cfce5,
  0x050d575b, 0x050db1d2, 0x050e0c4b, 0x050e66c5, 0x050ec141, 0x050f1bbf, 0x050f763e, 0x050fd0bf,
  0x05102b42, 0x051085c6, 0x0510e04b, 0x05113ad3, 0x0511955b, 0x0511efe6, 0x05124a72, 0x0512a4ff,
  0x0512ff8e, 0x05135a1f, 0x0513b4b1, 0x05140f45, 0x051469da, 0x0514c471, 0x05151f0a, 0x051579a4,
  0x0515d440, 0x05162edd, 0x0516897c, 0x0516e41c, 0x05173ebe, 0x05179962, 0x0517f407, 0x05184eae,
  0x0518a956, 0x05190400, 0x05195eab, 0x0519b958, 0x051a1407, 0x051a6eb7, 0x051ac969, 0x051b241c,
  0x051b7ed1, 0x051bd987, 0x051c3440, 0x051c8ef9, 0x051ce9b4, 0x051d4471, 0x051d9f2f, 0x051df9ef,
  0x051e54b1, 0x051eaf74, 0x051f0a38, 0x051f64ff, 0x051fbfc6, 0x05201a90, 0x0520755b, 0x0520d027,
  0x05212af5, 0x052185c5, 0x0521e096, 0x05223b69, 0x0522963d, 0x0522f113, 0x05234bea, 0x0523a6c3,
  0x0524019e, 0x05245c7a, 0x0524b758, 0x05251237, 0x05256d18, 0x0525c7fb, 0x052622df, 0x05267dc4,
  0x0526d8ab, 0x05273394, 0x05278e7e, 0x0527e96a, 0x05284457, 0x05289f46, 0x0528fa37, 0x05295529,
  0x0529b01d, 0x052a0b12, 0x052a6609, 0x052ac101, 0x052b1bfb, 0x052b76f7, 0x052bd1f4, 0x052c2cf2,
  0x052c87f2, 0x052ce2f4, 0x052d3df7, 0x052d98fc, 0x052df403, 0x052e4f0b, 0x052eaa14, 0x052f051f,
  0x052f602c, 0x052fbb3a, 0x0530164a, 0x0530715b, 0x0530cc6e, 0x05312783, 0x05318299, 0x0531ddb0,
  0x053238ca, 0x053293e4, 0x0532ef01, 0x05334a1e, 0x0533a53e, 0x0534005f, 0x05345b81, 0x0534b6a5,
  0x053511cb, 0x05356cf2, 0x0535c81b, 0x05362345, 0x05367e71, 0x0536d99f, 0x053734ce, 0x05378ffe,
  0x0537eb30, 0x05384664, 0x0538a199, 0x0538fcd0, 0x05395808, 0x0539b342, 0x053a0e7d, 0x053a69ba,
  0x053ac4f9, 0x053b2039, 0x053b7b7b, 0x053bd6be, 0x053c3203, 0x053c8d49, 0x053ce891, 0x053d43da,
  0x053d9f25, 0x053dfa72, 0x053e55c0, 0x053eb10f, 0x053f0c61, 0x053f67b3, 0x053fc308, 0x05401e5e,
  0x054079b5, 0x0540d50e, 0x05413068, 0x05418bc4, 0x0541e722, 0x05424281, 0x05429de2, 0x0542f944,
  0x054354a8, 0x0543b00d, 0x05440b74, 0x054466dd, 0x0544c247, 0x05451db2, 0x0545791f, 0x0545d48e,
  0x05462ffe, 0x05468b70, 0x0546e6e3, 0x05474258, 0x05479dce, 0x0547f946, 0x054854c0, 0x0548b03b,
  0x05490bb7, 0x05496735, 0x0549c2b5, 0x054a1e36, 0x054a79b9, 0x054ad53d, 0x054b30c3, 0x054b8c4b,
  0x054be7d4, 0x054c435e, 0x054c9eea, 0x054cfa78, 0x054d5607, 0x054db197, 0x054e0d2a, 0x054e68bd,
  0x054ec453, 0x054f1fe9, 0x054f7b82, 0x054fd71c, 0x055032b7, 0x05508e54, 0x0550e9f3, 0x05514593,
  0x0551a134, 0x0551fcd8, 0x0552587c, 0x0552b423, 0x05530fca, 0x05536b74, 0x0553c71f, 0x055422cb,
  0x05547e79, 0x0554da29, 0x055535da, 0x0555918c, 0x0555ed40, 0x055648f6, 0x0556a4ad, 0x05570066,
  0x05575c20, 0x0557b7dc, 0x05581399, 0x05586f58, 0x0558cb19, 0x055926db, 0x0559829e, 0x0559de63,
  0x055a3a2a, 0x055a95f2, 0x055af1bb, 0x055b4d87, 0x055ba953, 0x055c0522, 0x055c60f1, 0x055cbcc3,
  0x055d1896, 0x055d746a, 0x055dd040, 0x055e2c17, 0x055e87f0, 0x055ee3cb, 0x055f3fa7, 0x055f9b85,
  0x055ff764, 0x05605344, 0x0560af27, 0x05610b0a, 0x056166f0, 0x0561c2d7, 0x05621ebf, 0x05627aa9]

def rqMantissas18C : List ℕ := [
  0x0562d694, 0x05633281, 0x05638e70, 0x0563ea60, 0x05644651, 0x0564a244, 0x0564fe39, 0x05655a2f,
  0x0565b627, 0x05661220, 0x05666e1a, 0x0566ca17, 0x05672614, 0x05678214, 0x0567de15, 0x05683a17,
  0x0568961b, 0x0568f220, 0x05694e27, 0x0569aa30, 0x056a063a, 0x056a6245, 0x056abe52, 0x056b1a61,
  0x056b7671, 0x056bd283, 0x056c2e96, 0x056c8aab, 0x056ce6c1, 0x056d42d9, 0x056d9ef2, 0x056dfb0d,
  0x056e5729, 0x056eb347, 0x056f0f66, 0x056f6b87, 0x056fc7aa, 0x057023cd, 0x05707ff3, 0x0570dc1a,
  0x05713843, 0x0571946d, 0x0571f098, 0x05724cc5, 0x0572a8f4, 0x05730524, 0x05736156, 0x0573bd89,
  0x057419be, 0x057475f4, 0x0574d22c, 0x05752e65, 0x05758aa0, 0x0575e6dc, 0x0576431a, 0x05769f59,
  0x0576fb9a, 0x057757dd, 0x0577b421, 0x05781066, 0x05786cad, 0x0578c8f5, 0x0579253f, 0x0579818b,
  0x0579ddd8, 0x057a3a27, 0x057a9677, 0x057af2c8, 0x057b4f1c, 0x057bab70, 0x057c07c6, 0x057c641e,
  0x057cc077, 0x057d1cd2, 0x057d792e, 0x057dd58c, 0x057e31eb, 0x057e8e4c, 0x057eeaae, 0x057f4712,
  0x057fa378, 0x057fffde, 0x05805c47, 0x0580b8b1, 0x0581151c, 0x05817189, 0x0581cdf7, 0x05822a67,
  0x058286d9, 0x0582e34c, 0x05833fc0, 0x05839c36, 0x0583f8ae, 0x05845527, 0x0584b1a1, 0x05850e1e,
  0x05856a9b, 0x0585c71a, 0x0586239b, 0x0586801d, 0x0586dca1, 0x05873926, 0x058795ac, 0x0587f235,
  0x05884ebe, 0x0588ab49, 0x058907d6, 0x05896464, 0x0589c0f4, 0x058a1d85, 0x058a7a18, 0x058ad6ac,
  0x058b3342, 0x058b8fd9, 0x058bec72, 0x058c490c, 0x058ca5a8, 0x058d0246, 0x058d5ee4, 0x058dbb85,
  0x058e1827, 0x058e74ca, 0x058ed16f, 0x058f2e15, 0x058f8abd, 0x058fe766, 0x05904411, 0x0590a0be,
  0x0590fd6c, 0x05915a1b, 0x0591b6cc, 0x0592137e, 0x05927032, 0x0592cce8, 0x0593299f, 0x05938657,
  0x0593e311, 0x05943fcd, 0x05949c8a, 0x0594f948, 0x05955608, 0x0595b2ca, 0x05960f8c, 0x05966c51,
  0x0596c917, 0x059725de, 0x059782a7, 0x0597df72, 0x05983c3e, 0x0598990c, 0x0598f5db, 0x059952ab,
  0x0599af7d, 0x059a0c51, 0x059a6926, 0x059ac5fc, 0x059b22d4, 0x059b7fae, 0x059bdc89, 0x059c3965,
  0x059c9643, 0x059cf323, 0x059d5004, 0x059dace6, 0x059e09cb, 0x059e66b0, 0x059ec397, 0x059f2080,
  0x059f7d6a, 0x059fda55, 0x05a03742, 0x05a09431, 0x05a0f121, 0x05a14e12, 0x05a1ab05, 0x05a207fa,
  0x05a264f0, 0x05a2c1e7, 0x05a31ee1, 0x05a37bdb, 0x05a3d8d7, 0x05a435d5, 0x05a492d4, 0x05a4efd4,
  0x05a54cd6, 0x05a5a9da, 0x05a606df, 0x05a663e5, 0x05a6c0ed, 0x05a71df7, 0x05a77b02, 0x05a7d80e,
  0x05a8351c, 0x05a8922c, 0x05a8ef3c, 0x05a94c4f, 0x05a9a963, 0x05aa0678, 0x05aa638f, 0x05aac0a8,
  0x05ab1dc2, 0x05ab7add, 0x05abd7fa, 0x05ac3518, 0x05ac9238, 0x05acef5a, 0x05ad4c7d, 0x05ada9a1,
  0x05ae06c7, 0x05ae63ee, 0x05aec117, 0x05af1e41, 0x05af7b6d, 0x05afd89b, 0x05b035c9, 0x05b092fa,
  0x05b0f02b, 0x05b14d5f, 0x05b1aa94, 0x05b207ca, 0x05b26502, 0x05b2c23b, 0x05b31f76, 0x05b37cb2,
  0x05b3d9f0, 0x05b4372f, 0x05b4946f, 0x05b4f1b2, 0x05b54ef5, 0x05b5ac3a, 0x05b60981, 0x05b666c9,
  0x05b6c413, 0x05b7215e, 0x05b77eab, 0x05b7dbf9, 0x05b83948, 0x05b89699, 0x05b8f3ec, 0x05b95140,
  0x05b9ae95, 0x05ba0bec, 0x05ba6945, 0x05bac69f, 0x05bb23fa, 0x05bb8157, 0x05bbdeb6, 0x05bc3c16,
  0x05bc9977, 0x05bcf6da, 0x05bd543e, 0x05bdb1a4, 0x05be0f0b, 0x05be6c74, 0x05bec9df, 0x05bf274a,
  0x05bf84b8, 0x05bfe226, 0x05c03f97, 0x05c09d08, 0x05c0fa7c, 0x05c157f0, 0x05c1b566, 0x05c212de,
  0x05c27057, 0x05c2cdd2, 0x05c32b4e, 0x05c388cb, 0x05c3e64b, 0x05c443cb, 0x05c4a14d, 0x05c4fed1,
  0x05c55c56, 0x05c5b9dc, 0x05c61764, 0x05c674ed, 0x05c6d278, 0x05c73005, 0x05c78d93, 0x05c7eb22,
  0x05c848b3, 0x05c8a645, 0x05c903d9, 0x05c9616e, 0x05c9bf05, 0x05ca1c9d, 0x05ca7a37, 0x05cad7d2,
  0x05cb356e, 0x05cb930d, 0x05cbf0ac, 0x05cc4e4d, 0x05ccabf0, 0x05cd0994, 0x05cd6739, 0x05cdc4e0,
  0x05ce2289, 0x05ce8033, 0x05ceddde, 0x05cf3b8b, 0x05cf9939, 0x05cff6e9, 0x05d0549a, 0x05d0b24d,
  0x05d11001, 0x05d16db7, 0x05d1cb6e, 0x05d22927, 0x05d286e1, 0x05d2e49d, 0x05d3425a, 0x05d3a018,
  0x05d3fdd8, 0x05d45b9a, 0x05d4b95d, 0x05d51721, 0x05d574e7, 0x05d5d2af, 0x05d63078, 0x05d68e42,
  0x05d6ec0e, 0x05d749db, 0x05d7a7aa, 0x05d8057a, 0x05d8634c, 0x05d8c11f, 0x05d91ef4, 0x05d97cca,
  0x05d9daa1, 0x05da387a, 0x05da9655, 0x05daf431, 0x05db520e, 0x05dbafed, 0x05dc0dce, 0x05dc6baf,
  0x05dcc993, 0x05dd2778, 0x05dd855e, 0x05dde346, 0x05de412f, 0x05de9f1a, 0x05defd06, 0x05df5af3,
  0x05dfb8e2, 0x05e016d3, 0x05e074c5, 0x05e0d2b8, 0x05e130ad, 0x05e18ea4, 0x05e1ec9c, 0x05e24a95,
  0x05e2a890, 0x05e3068c, 0x05e3648a, 0x05e3c289, 0x05e4208a, 0x05e47e8c, 0x05e4dc8f, 0x05e53a94,
  0x05e5989b, 0x05e5f6a3, 0x05e654ac, 0x05e6b2b7, 0x05e710c4, 0x05e76ed2, 0x05e7cce1, 0x05e82af2,
  0x05e88904, 0x05e8e718, 0x05e9452d, 0x05e9a343, 0x05ea015c, 0x05ea5f75, 0x05eabd90, 0x05eb1bad,
  0x05eb79cb, 0x05ebd7ea, 0x05ec360b, 0x05ec942d, 0x05ecf251, 0x05ed5076, 0x05edae9d, 0x05ee0cc5,
  0x05ee6aef, 0x05eec91a, 0x05ef2746, 0x05ef8574, 0x05efe3a4, 0x05f041d5, 0x05f0a007, 0x05f0fe3b,
  0x05f15c70, 0x05f1baa7, 0x05f218df, 0x05f27719, 0x05f2d554, 0x05f33390, 0x05f391cf, 0x05f3f00e,
  0x05f44e4f, 0x05f4ac91, 0x05f50ad5, 0x05f5691b, 0x05f5c761, 0x05f625aa, 0x05f683f3, 0x05f6e23f,
  0x05f7408b, 0x05f79ed9, 0x05f7fd29, 0x05f85b7a, 0x05f8b9cc, 0x05f91820, 0x05f97675, 0x05f9d4cc,
  0x05fa3324, 0x05fa917e, 0x05faefd9, 0x05fb4e36, 0x05fbac94, 0x05fc0af3, 0x05fc6954, 0x05fcc7b7,
  0x05fd261b, 0x05fd8480, 0x05fde2e7, 0x05fe414f, 0x05fe9fb9, 0x05fefe24, 0x05ff5c91, 0x05ffbaff,
  0x0600196e, 0x060077df, 0x0600d651, 0x060134c5, 0x0601933b, 0x0601f1b1, 0x0602502a, 0x0602aea3,
  0x06030d1e, 0x06036b9b, 0x0603ca19, 0x06042898, 0x06048719, 0x0604e59c, 0x0605441f, 0x0605a2a5,
  0x0606012b, 0x06065fb4, 0x0606be3d, 0x06071cc8, 0x06077b55, 0x0607d9e3, 0x06083872, 0x06089703,
  0x0608f595, 0x06095429, 0x0609b2be, 0x060a1155, 0x060a6fed, 0x060ace86, 0x060b2d21, 0x060b8bbe,
  0x060bea5c, 0x060c48fb, 0x060ca79c, 0x060d063e, 0x060d64e1, 0x060dc387, 0x060e222d, 0x060e80d5,
  0x060edf7f, 0x060f3e29, 0x060f9cd6, 0x060ffb83, 0x06105a33, 0x0610b8e3, 0x06111795, 0x06117649,
  0x0611d4fe, 0x061233b4, 0x0612926c, 0x0612f125, 0x06134fe0, 0x0613ae9c, 0x06140d5a, 0x06146c19,
  0x0614cada, 0x0615299c, 0x0615885f, 0x0615e724, 0x061645ea, 0x0616a4b2, 0x0617037b, 0x06176246,
  0x0617c112, 0x06181fdf, 0x06187eae, 0x0618dd7e, 0x06193c50, 0x06199b24, 0x0619f9f8, 0x061a58ce,
  0x061ab7a6, 0x061b167f, 0x061b7559, 0x061bd435, 0x061c3313, 0x061c91f1, 0x061cf0d2, 0x061d4fb3]

def rqMantissas18D : List ℕ := [
  0x061dae96, 0x061e0d7b, 0x061e6c61, 0x061ecb48, 0x061f2a31, 0x061f891b, 0x061fe807, 0x062046f4,
  0x0620a5e3, 0x062104d3, 0x062163c4, 0x0621c2b7, 0x062221ab, 0x062280a1, 0x0622df98, 0x06233e91,
  0x06239d8b, 0x0623fc86, 0x06245b83, 0x0624ba82, 0x06251981, 0x06257883, 0x0625d785, 0x06263689,
  0x0626958f, 0x0626f496, 0x0627539e, 0x0627b2a8, 0x062811b3, 0x062870c0, 0x0628cfce, 0x06292ede,
  0x06298def, 0x0629ed01, 0x062a4c15, 0x062aab2a, 0x062b0a41, 0x062b6959, 0x062bc873, 0x062c278e,
  0x062c86aa, 0x062ce5c8, 0x062d44e8, 0x062da408, 0x062e032a, 0x062e624e, 0x062ec173, 0x062f209a,
  0x062f7fc1, 0x062fdeeb, 0x06303e16, 0x06309d42, 0x0630fc6f, 0x06315b9e, 0x0631bacf, 0x06321a01,
  0x06327934, 0x0632d869, 0x0633379f, 0x063396d7, 0x0633f610, 0x0634554a, 0x0634b486, 0x063513c3,
  0x06357302, 0x0635d242, 0x06363184, 0x063690c7, 0x0636f00b, 0x06374f51, 0x0637ae99, 0x06380de1,
  0x06386d2b, 0x0638cc77, 0x06392bc4, 0x06398b12, 0x0639ea62, 0x063a49b4, 0x063aa906, 0x063b085a,
  0x063b67b0, 0x063bc707, 0x063c265f, 0x063c85b9, 0x063ce514, 0x063d4471, 0x063da3cf, 0x063e032f,
  0x063e6290, 0x063ec1f2, 0x063f2156, 0x063f80bb, 0x063fe022, 0x06403f8a, 0x06409ef3, 0x0640fe5e,
  0x06415dcb, 0x0641bd38, 0x06421ca7, 0x06427c18, 0x0642db8a, 0x06433afd, 0x06439a72, 0x0643f9e9,
  0x06445960, 0x0644b8d9, 0x06451854, 0x064577d0, 0x0645d74d, 0x064636cc, 0x0646964c, 0x0646f5ce,
  0x06475551, 0x0647b4d5, 0x0648145b, 0x064873e3, 0x0648d36b, 0x064932f6, 0x06499281, 0x0649f20e,
  0x064a519c, 0x064ab12c, 0x064b10be, 0x064b7050, 0x064bcfe4, 0x064c2f7a, 0x064c8f11, 0x064ceea9,
  0x064d4e43, 0x064dadde, 0x064e0d7a, 0x064e6d18, 0x064eccb8, 0x064f2c59, 0x064f8bfb, 0x064feb9e,
  0x06504b44, 0x0650aaea, 0x06510a92, 0x06516a3b, 0x0651c9e6, 0x06522992, 0x06528940, 0x0652e8ef,
  0x0653489f, 0x0653a851, 0x06540804, 0x065467b9, 0x0654c76f, 0x06552726, 0x065586df, 0x0655e699,
  0x06564655, 0x0656a612, 0x065705d0, 0x06576590, 0x0657c552, 0x06582514, 0x065884d9, 0x0658e49e,
  0x06594465, 0x0659a42e, 0x065a03f7, 0x065a63c3, 0x065ac38f, 0x065b235d, 0x065b832d, 0x065be2fe,
  0x065c42d0, 0x065ca2a3, 0x065d0279, 0x065d624f, 0x065dc227, 0x065e2200, 0x065e81db, 0x065ee1b7,
  0x065f4195, 0x065fa174, 0x06600154, 0x06606136, 0x0660c119, 0x066120fd, 0x066180e3, 0x0661e0cb,
  0x066240b4, 0x0662a09e, 0x06630089, 0x06636077, 0x0663c065, 0x06642055, 0x06648046, 0x0664e039,
  0x0665402d, 0x0665a022, 0x06660019, 0x06666011, 0x0666c00b, 0x06672006, 0x06678003, 0x0667e000,
  0x06684000, 0x0668a000, 0x06690003, 0x06696006, 0x0669c00b, 0x066a2011, 0x066a8019, 0x066ae022,
  0x066b402d, 0x066ba039, 0x066c0046, 0x066c6055, 0x066cc065, 0x066d2076, 0x066d8089, 0x066de09e,
  0x066e40b3, 0x066ea0cb, 0x066f00e3, 0x066f60fd, 0x066fc118, 0x06702135, 0x06708153, 0x0670e173,
  0x06714194, 0x0671a1b6, 0x067201da, 0x067261ff, 0x0672c226, 0x0673224e, 0x06738277, 0x0673e2a2,
  0x067442ce, 0x0674a2fc, 0x0675032b, 0x0675635b, 0x0675c38d, 0x067623c0, 0x067683f4, 0x0676e42a,
  0x06774462, 0x0677a49b, 0x067804d5, 0x06786510, 0x0678c54d, 0x0679258c, 0x067985cb, 0x0679e60c,
  0x067a464f, 0x067aa693, 0x067b06d8, 0x067b671f, 0x067bc767, 0x067c27b1, 0x067c87fc, 0x067ce848,
  0x067d4896, 0x067da8e5, 0x067e0935, 0x067e6987, 0x067ec9da, 0x067f2a2f, 0x067f8a85, 0x067feadd,
  0x06804b36, 0x0680ab90, 0x06810beb, 0x06816c49, 0x0681cca7, 0x06822d07, 0x06828d68, 0x0682edcb,
  0x06834e2f, 0x0683ae94, 0x06840efb, 0x06846f63, 0x0684cfcd, 0x06853038, 0x068590a4, 0x0685f112,
  0x06865181, 0x0686b1f2, 0x06871264, 0x068772d7, 0x0687d34c, 0x068833c2, 0x06889439, 0x0688f4b2,
  0x0689552c, 0x0689b5a8, 0x068a1625, 0x068a76a4, 0x068ad724, 0x068b37a5, 0x068b9827, 0x068bf8ac,
  0x068c5931, 0x068cb9b8, 0x068d1a40, 0x068d7aca, 0x068ddb54, 0x068e3be1, 0x068e9c6f, 0x068efcfe,
  0x068f5d8e, 0x068fbe20, 0x06901eb4, 0x06907f48, 0x0690dfde, 0x06914076, 0x0691a10f, 0x069201a9,
  0x06926245, 0x0692c2e2, 0x06932380, 0x06938420, 0x0693e4c1, 0x06944563, 0x0694a607, 0x069506ad,
  0x06956753, 0x0695c7fc, 0x069628a5, 0x06968950, 0x0696e9fc, 0x06974aaa, 0x0697ab59, 0x06980c09,
  0x06986cbb, 0x0698cd6e, 0x06992e23, 0x06998ed9, 0x0699ef90, 0x069a5049, 0x069ab103, 0x069b11bf,
  0x069b727b, 0x069bd33a, 0x069c33f9, 0x069c94ba, 0x069cf57d, 0x069d5641, 0x069db706, 0x069e17cc,
  0x069e7894, 0x069ed95e, 0x069f3a28, 0x069f9af4, 0x069ffbc2, 0x06a05c91, 0x06a0bd61, 0x06a11e32,
  0x06a17f05, 0x06a1dfda, 0x06a240b0, 0x06a2a187, 0x06a3025f, 0x06a36339, 0x06a3c414, 0x06a424f1,
  0x06a485cf, 0x06a4e6ae, 0x06a5478f, 0x06a5a871, 0x06a60955, 0x06a66a3a, 0x06a6cb20, 0x06a72c08,
  0x06a78cf1, 0x06a7eddb, 0x06a84ec7, 0x06a8afb4, 0x06a910a3, 0x06a97193, 0x06a9d284, 0x06aa3377,
  0x06aa946b, 0x06aaf561, 0x06ab5657, 0x06abb750, 0x06ac1849, 0x06ac7944, 0x06acda41, 0x06ad3b3e,
  0x06ad9c3d, 0x06adfd3e, 0x06ae5e40, 0x06aebf43, 0x06af2047, 0x06af814d, 0x06afe255, 0x06b0435e,
  0x06b0a468, 0x06b10573, 0x06b16680, 0x06b1c78e, 0x06b2289e, 0x06b289af, 0x06b2eac1, 0x06b34bd5,
  0x06b3acea, 0x06b40e00, 0x06b46f18, 0x06b4d031, 0x06b5314c, 0x06b59268, 0x06b5f385, 0x06b654a4,
  0x06b6b5c4, 0x06b716e6, 0x06b77808, 0x06b7d92d, 0x06b83a52, 0x06b89b79, 0x06b8fca1, 0x06b95dcb,
  0x06b9bef6, 0x06ba2023, 0x06ba8150, 0x06bae280, 0x06bb43b0, 0x06bba4e2, 0x06bc0615, 0x06bc674a,
  0x06bcc880, 0x06bd29b7, 0x06bd8af0, 0x06bdec2a, 0x06be4d66, 0x06beaea3, 0x06bf0fe1, 0x06bf7120,
  0x06bfd261, 0x06c033a4, 0x06c094e7, 0x06c0f62c, 0x06c15773, 0x06c1b8bb, 0x06c21a04, 0x06c27b4e,
  0x06c2dc9a, 0x06c33de8, 0x06c39f36, 0x06c40086, 0x06c461d8, 0x06c4c32a, 0x06c5247f, 0x06c585d4,
  0x06c5e72b, 0x06c64883, 0x06c6a9dd, 0x06c70b38, 0x06c76c94, 0x06c7cdf2, 0x06c82f51, 0x06c890b1,
  0x06c8f213, 0x06c95376, 0x06c9b4da, 0x06ca1640, 0x06ca77a8, 0x06cad910, 0x06cb3a7a, 0x06cb9be5,
  0x06cbfd52, 0x06cc5ec0, 0x06ccc030, 0x06cd21a0, 0x06cd8313, 0x06cde486, 0x06ce45fb, 0x06cea771,
  0x06cf08e9, 0x06cf6a62, 0x06cfcbdc, 0x06d02d58, 0x06d08ed5, 0x06d0f053, 0x06d151d3, 0x06d1b354,
  0x06d214d7, 0x06d2765a, 0x06d2d7e0, 0x06d33966, 0x06d39aee, 0x06d3fc77, 0x06d45e02, 0x06d4bf8e,
  0x06d5211c, 0x06d582aa, 0x06d5e43a, 0x06d645cc, 0x06d6a75f, 0x06d708f3, 0x06d76a88, 0x06d7cc1f,
  0x06d82db8, 0x06d88f51, 0x06d8f0ec, 0x06d95288, 0x06d9b426, 0x06da15c5, 0x06da7766, 0x06dad907,
  0x06db3aaa, 0x06db9c4f, 0x06dbfdf5, 0x06dc5f9c, 0x06dcc145, 0x06dd22ee, 0x06dd849a, 0x06dde646]

def rqMantissas18E : List ℕ := [
  0x06de47f4, 0x06dea9a4, 0x06df0b54, 0x06df6d06, 0x06dfceba, 0x06e0306f, 0x06e09225, 0x06e0f3dc,
  0x06e15595, 0x06e1b74f, 0x06e2190b, 0x06e27ac8, 0x06e2dc86, 0x06e33e46, 0x06e3a007, 0x06e401c9,
  0x06e4638d, 0x06e4c552, 0x06e52718, 0x06e588e0, 0x06e5eaa9, 0x06e64c73, 0x06e6ae3f, 0x06e7100c,
  0x06e771db, 0x06e7d3ab, 0x06e8357c, 0x06e8974e, 0x06e8f922, 0x06e95af8, 0x06e9bcce, 0x06ea1ea6,
  0x06ea807f, 0x06eae25a, 0x06eb4436, 0x06eba614, 0x06ec07f2, 0x06ec69d2, 0x06eccbb4, 0x06ed2d97,
  0x06ed8f7b, 0x06edf160, 0x06ee5347, 0x06eeb52f, 0x06ef1719, 0x06ef7904, 0x06efdaf0, 0x06f03cde,
  0x06f09ecc, 0x06f100bd, 0x06f162ae, 0x06f1c4a1, 0x06f22696, 0x06f2888b, 0x06f2ea82, 0x06f34c7b,
  0x06f3ae75, 0x06f41070, 0x06f4726c, 0x06f4d46a, 0x06f53669, 0x06f59869, 0x06f5fa6b, 0x06f65c6e,
  0x06f6be73, 0x06f72079, 0x06f78280, 0x06f7e489, 0x06f84693, 0x06f8a89e, 0x06f90aaa, 0x06f96cb8,
  0x06f9cec8, 0x06fa30d8, 0x06fa92ea, 0x06faf4fe, 0x06fb5712, 0x06fbb928, 0x06fc1b40, 0x06fc7d58,
  0x06fcdf72, 0x06fd418e, 0x06fda3ab, 0x06fe05c9, 0x06fe67e8, 0x06feca09, 0x06ff2c2b, 0x06ff8e4f,
  0x06fff073, 0x0700529a, 0x0700b4c1, 0x070116ea, 0x07017914, 0x0701db40, 0x07023d6c, 0x07029f9b,
  0x070301ca, 0x070363fb, 0x0703c62d, 0x07042861, 0x07048a96, 0x0704eccc, 0x07054f04, 0x0705b13d,
  0x07061377, 0x070675b3, 0x0706d7f0, 0x07073a2e, 0x07079c6e, 0x0707feaf, 0x070860f1, 0x0708c335,
  0x0709257a, 0x070987c0, 0x0709ea08, 0x070a4c51, 0x070aae9b, 0x070b10e7, 0x070b7334, 0x070bd583,
  0x070c37d2, 0x070c9a23, 0x070cfc76, 0x070d5eca, 0x070dc11f, 0x070e2375, 0x070e85cd, 0x070ee826,
  0x070f4a80, 0x070facdc, 0x07100f39, 0x07107198, 0x0710d3f8, 0x07113659, 0x071198bb, 0x0711fb1f,
  0x07125d84, 0x0712bfeb, 0x07132253, 0x071384bc, 0x0713e726, 0x07144992, 0x0714abff, 0x07150e6e,
  0x071570de, 0x0715d34f, 0x071635c1, 0x07169835, 0x0716faaa, 0x07175d21, 0x0717bf99, 0x07182212,
  0x0718848d, 0x0718e709, 0x07194986, 0x0719ac04, 0x071a0e84, 0x071a7105, 0x071ad388, 0x071b360c,
  0x071b9891, 0x071bfb18, 0x071c5d9f, 0x071cc029, 0x071d22b3, 0x071d853f, 0x071de7cc, 0x071e4a5b,
  0x071eaceb, 0x071f0f7c, 0x071f720e, 0x071fd4a2, 0x07203737, 0x072099ce, 0x0720fc66, 0x07215eff,
  0x0721c19a, 0x07222436, 0x072286d3, 0x0722e971, 0x07234c11, 0x0723aeb2, 0x07241155, 0x072473f9,
  0x0724d69e, 0x07253944, 0x07259bec, 0x0725fe95, 0x07266140, 0x0726c3ec, 0x07272699, 0x07278947,
  0x0727ebf7, 0x07284ea8, 0x0728b15b, 0x0729140f, 0x072976c4, 0x0729d97a, 0x072a3c32, 0x072a9eeb,
  0x072b01a6, 0x072b6461, 0x072bc71e, 0x072c29dd, 0x072c8c9d, 0x072cef5e, 0x072d5220, 0x072db4e4,
  0x072e17a9, 0x072e7a6f, 0x072edd37, 0x072f4000, 0x072fa2ca, 0x07300596, 0x07306863, 0x0730cb32,
  0x07312e01, 0x073190d2, 0x0731f3a5, 0x07325678, 0x0732b94d, 0x07331c23, 0x07337efb, 0x0733e1d4,
  0x073444ae, 0x0734a78a, 0x07350a67, 0x07356d45, 0x0735d025, 0x07363306, 0x073695e8, 0x0736f8cb,
  0x07375bb0, 0x0737be96, 0x0738217e, 0x07388467, 0x0738e751, 0x07394a3d, 0x0739ad29, 0x073a1017,
  0x073a7307, 0x073ad5f8, 0x073b38ea, 0x073b9bdd, 0x073bfed2, 0x073c61c8, 0x073cc4bf, 0x073d27b8,
  0x073d8ab2, 0x073dedae, 0x073e50aa, 0x073eb3a8, 0x073f16a8, 0x073f79a8, 0x073fdcaa, 0x07403fad,
  0x0740a2b2, 0x074105b8, 0x074168bf, 0x0741cbc8, 0x07422ed2, 0x074291dd, 0x0742f4e9, 0x074357f7,
  0x0743bb06, 0x07441e17, 0x07448129, 0x0744e43c, 0x07454750, 0x0745aa66, 0x07460d7d, 0x07467095,
  0x0746d3af, 0x074736ca, 0x074799e7, 0x0747fd04, 0x07486023, 0x0748c344, 0x07492665, 0x07498988,
  0x0749ecac, 0x074a4fd2, 0x074ab2f9, 0x074b1621, 0x074b794b, 0x074bdc75, 0x074c3fa1, 0x074ca2cf,
  0x074d05fe, 0x074d692e, 0x074dcc5f, 0x074e2f92, 0x074e92c6, 0x074ef5fb, 0x074f5932, 0x074fbc6a,
  0x07501fa3, 0x075082de, 0x0750e61a, 0x07514957, 0x0751ac96, 0x07520fd6, 0x07527317, 0x0752d659,
  0x0753399d, 0x07539ce2, 0x07540029, 0x07546371, 0x0754c6ba, 0x07552a04, 0x07558d50, 0x0755f09d,
  0x075653eb, 0x0756b73b, 0x07571a8c, 0x07577dde, 0x0757e131, 0x07584486, 0x0758a7dd, 0x07590b34,
  0x07596e8d, 0x0759d1e7, 0x075a3542, 0x075a989f, 0x075afbfd, 0x075b5f5d, 0x075bc2bd, 0x075c261f,
  0x075c8983, 0x075cece7, 0x075d504d, 0x075db3b5, 0x075e171d, 0x075e7a87, 0x075eddf2, 0x075f415f,
  0x075fa4cc, 0x0760083b, 0x07606bac, 0x0760cf1e, 0x07613291, 0x07619605, 0x0761f97b, 0x07625cf2,
  0x0762c06a, 0x076323e3, 0x0763875e, 0x0763eadb, 0x07644e58, 0x0764b1d7, 0x07651557, 0x076578d8,
  0x0765dc5b, 0x07663fdf, 0x0766a364, 0x076706eb, 0x07676a73, 0x0767cdfc, 0x07683187, 0x07689513,
  0x0768f8a0, 0x07695c2e, 0x0769bfbe, 0x076a234f, 0x076a86e2, 0x076aea75, 0x076b4e0a, 0x076bb1a1,
  0x076c1538, 0x076c78d1, 0x076cdc6c, 0x076d4007, 0x076da3a4, 0x076e0742, 0x076e6ae2, 0x076ece82,
  0x076f3224, 0x076f95c8, 0x076ff96c, 0x07705d12, 0x0770c0ba, 0x07712462, 0x0771880c, 0x0771ebb7,
  0x07724f64, 0x0772b312, 0x077316c1, 0x07737a71, 0x0773de23, 0x077441d6, 0x0774a58a, 0x07750940,
  0x07756cf7, 0x0775d0af, 0x07763468, 0x07769823, 0x0776fbdf, 0x07775f9d, 0x0777c35c, 0x0778271c,
  0x07788add, 0x0778ee9f, 0x07795263, 0x0779b629, 0x077a19ef, 0x077a7db7, 0x077ae180, 0x077b454b,
  0x077ba916, 0x077c0ce3, 0x077c70b2, 0x077cd481, 0x077d3852, 0x077d9c24, 0x077dfff8, 0x077e63cd,
  0x077ec7a3, 0x077f2b7a, 0x077f8f53, 0x077ff32d, 0x07805708, 0x0780bae5, 0x07811ec3, 0x078182a2,
  0x0781e683, 0x07824a64, 0x0782ae47, 0x0783122c, 0x07837612, 0x0783d9f9, 0x07843de1, 0x0784a1ca,
  0x078505b5, 0x078569a2, 0x0785cd8f, 0x0786317e, 0x0786956e, 0x0786f95f, 0x07875d52, 0x0787c146,
  0x0788253b, 0x07888932, 0x0788ed2a, 0x07895123, 0x0789b51d, 0x078a1919, 0x078a7d16, 0x078ae114,
  0x078b4514, 0x078ba915, 0x078c0d17, 0x078c711a, 0x078cd51f, 0x078d3925, 0x078d9d2d, 0x078e0135,
  0x078e653f, 0x078ec94b, 0x078f2d57, 0x078f9165, 0x078ff574, 0x07905985, 0x0790bd96, 0x079121a9,
  0x079185be, 0x0791e9d3, 0x07924dea, 0x0792b202, 0x0793161c, 0x07937a37, 0x0793de53, 0x07944270,
  0x0794a68f, 0x07950aaf, 0x07956ed0, 0x0795d2f2, 0x07963716, 0x07969b3b, 0x0796ff62, 0x07976389,
  0x0797c7b2, 0x07982bdd, 0x07989008, 0x0798f435, 0x07995863, 0x0799bc92, 0x079a20c3, 0x079a84f5,
  0x079ae929, 0x079b4d5d, 0x079bb193, 0x079c15ca, 0x079c7a03, 0x079cde3c, 0x079d4277, 0x079da6b4,
  0x079e0af1, 0x079e6f30, 0x079ed370, 0x079f37b2, 0x079f9bf5, 0x07a00039, 0x07a0647e, 0x07a0c8c5,
  0x07a12d0c, 0x07a19156, 0x07a1f5a0, 0x07a259ec, 0x07a2be39, 0x07a32287, 0x07a386d7, 0x07a3eb28]

def rqMantissas18F : List ℕ := [
  0x07a44f7a, 0x07a4b3ce, 0x07a51822, 0x07a57c78, 0x07a5e0d0, 0x07a64528, 0x07a6a982, 0x07a70ddd,
  0x07a7723a, 0x07a7d698, 0x07a83af7, 0x07a89f57, 0x07a903b9, 0x07a9681c, 0x07a9cc80, 0x07aa30e5,
  0x07aa954c, 0x07aaf9b4, 0x07ab5e1e, 0x07abc288, 0x07ac26f4, 0x07ac8b61, 0x07acefd0, 0x07ad543f,
  0x07adb8b0, 0x07ae1d23, 0x07ae8196, 0x07aee60b, 0x07af4a81, 0x07afaef9, 0x07b01372, 0x07b077ec,
  0x07b0dc67, 0x07b140e4, 0x07b1a561, 0x07b209e1, 0x07b26e61, 0x07b2d2e3, 0x07b33766, 0x07b39bea,
  0x07b4006f, 0x07b464f6, 0x07b4c97e, 0x07b52e08, 0x07b59292, 0x07b5f71e, 0x07b65bac, 0x07b6c03a,
  0x07b724ca, 0x07b7895b, 0x07b7eded, 0x07b85281, 0x07b8b716, 0x07b91bac, 0x07b98044, 0x07b9e4dc,
  0x07ba4976, 0x07baae12, 0x07bb12ae, 0x07bb774c, 0x07bbdbeb, 0x07bc408c, 0x07bca52d, 0x07bd09d0,
  0x07bd6e75, 0x07bdd31a, 0x07be37c1, 0x07be9c69, 0x07bf0113, 0x07bf65bd, 0x07bfca69, 0x07c02f16,
  0x07c093c5, 0x07c0f875, 0x07c15d26, 0x07c1c1d8, 0x07c2268b, 0x07c28b40, 0x07c2eff6, 0x07c354ae,
  0x07c3b967, 0x07c41e21, 0x07c482dc, 0x07c4e798, 0x07c54c56, 0x07c5b115, 0x07c615d6, 0x07c67a97,
  0x07c6df5a, 0x07c7441e, 0x07c7a8e4, 0x07c80daa, 0x07c87272, 0x07c8d73c, 0x07c93c06, 0x07c9a0d2,
  0x07ca059f, 0x07ca6a6d, 0x07cacf3d, 0x07cb340e, 0x07cb98e0, 0x07cbfdb4, 0x07cc6288, 0x07ccc75e,
  0x07cd2c36, 0x07cd910e, 0x07cdf5e8, 0x07ce5ac3, 0x07cebfa0, 0x07cf247d, 0x07cf895c, 0x07cfee3c,
  0x07d0531e, 0x07d0b801, 0x07d11ce5, 0x07d181ca, 0x07d1e6b0, 0x07d24b98, 0x07d2b081, 0x07d3156c,
  0x07d37a57, 0x07d3df44, 0x07d44432, 0x07d4a922, 0x07d50e13, 0x07d57305, 0x07d5d7f8, 0x07d63cec,
  0x07d6a1e2, 0x07d706d9, 0x07d76bd2, 0x07d7d0cb, 0x07d835c6, 0x07d89ac2, 0x07d8ffc0, 0x07d964be,
  0x07d9c9be, 0x07da2ebf, 0x07da93c2, 0x07daf8c6, 0x07db5dcb, 0x07dbc2d1, 0x07dc27d9, 0x07dc8ce1,
  0x07dcf1ec, 0x07dd56f7, 0x07ddbc04, 0x07de2111, 0x07de8621, 0x07deeb31, 0x07df5043, 0x07dfb556,
  0x07e01a6a, 0x07e07f80, 0x07e0e496, 0x07e149ae, 0x07e1aec8, 0x07e213e2, 0x07e278fe, 0x07e2de1b,
  0x07e3433a, 0x07e3a859, 0x07e40d7a, 0x07e4729c, 0x07e4d7c0, 0x07e53ce4, 0x07e5a20a, 0x07e60732,
  0x07e66c5a, 0x07e6d184, 0x07e736af, 0x07e79bdb, 0x07e80109, 0x07e86638, 0x07e8cb68, 0x07e93099,
  0x07e995cc, 0x07e9fb00, 0x07ea6035, 0x07eac56b, 0x07eb2aa3, 0x07eb8fdc, 0x07ebf516, 0x07ec5a51,
  0x07ecbf8e, 0x07ed24cc, 0x07ed8a0b, 0x07edef4c, 0x07ee548e, 0x07eeb9d1, 0x07ef1f15, 0x07ef845b,
  0x07efe9a1, 0x07f04ee9, 0x07f0b433, 0x07f1197d, 0x07f17ec9, 0x07f1e416, 0x07f24965, 0x07f2aeb5,
  0x07f31405, 0x07f37958, 0x07f3deab, 0x07f44400, 0x07f4a956, 0x07f50ead, 0x07f57405, 0x07f5d95f,
  0x07f63eba, 0x07f6a416, 0x07f70974, 0x07f76ed3, 0x07f7d433, 0x07f83994, 0x07f89ef7, 0x07f9045a,
  0x07f969c0, 0x07f9cf26, 0x07fa348e, 0x07fa99f6, 0x07faff60, 0x07fb64cc, 0x07fbca38, 0x07fc2fa6,
  0x07fc9516, 0x07fcfa86, 0x07fd5ff8, 0x07fdc56b, 0x07fe2adf, 0x07fe9054, 0x07fef5cb, 0x07ff5b43,
  0x07ffc0bc]

def rqMantissas19A : List ℕ := [
  0x0400131b, 0x040045d9, 0x04007897, 0x0400ab57, 0x0400de16, 0x040110d7, 0x04014398, 0x04017659,
  0x0401a91c, 0x0401dbdf, 0x04020ea2, 0x04024166, 0x0402742b, 0x0402a6f0, 0x0402d9b6, 0x04030c7d,
  0x04033f44, 0x0403720c, 0x0403a4d5, 0x0403d79e, 0x04040a68, 0x04043d32, 0x04046ffd, 0x0404a2c9,
  0x0404d595, 0x04050862, 0x04053b30, 0x04056dfe, 0x0405a0cd, 0x0405d39c, 0x0406066c, 0x0406393d,
  0x04066c0e, 0x04069ee0, 0x0406d1b3, 0x04070486, 0x0407375a, 0x04076a2e, 0x04079d03, 0x0407cfd9,
  0x040802af, 0x04083586, 0x0408685e, 0x04089b36, 0x0408ce0f, 0x040900e8, 0x040933c2, 0x0409669d,
  0x04099978, 0x0409cc54, 0x0409ff31, 0x040a320e, 0x040a64ec, 0x040a97cb, 0x040acaaa, 0x040afd89,
  0x040b306a, 0x040b634b, 0x040b962c, 0x040bc90e, 0x040bfbf1, 0x040c2ed5, 0x040c61b9, 0x040c949e,
  0x040cc783, 0x040cfa69, 0x040d2d4f, 0x040d6037, 0x040d931e, 0x040dc607, 0x040df8f0, 0x040e2bda,
  0x040e5ec4, 0x040e91af, 0x040ec49b, 0x040ef787, 0x040f2a74, 0x040f5d61, 0x040f904f, 0x040fc33e,
  0x040ff62d, 0x0410291d, 0x04105c0e, 0x04108eff, 0x0410c1f1, 0x0410f4e3, 0x041127d6, 0x04115aca,
  0x04118dbe, 0x0411c0b3, 0x0411f3a9, 0x0412269f, 0x04125996, 0x04128c8d, 0x0412bf85, 0x0412f27e,
  0x04132577, 0x04135871, 0x04138b6c, 0x0413be67, 0x0413f163, 0x0414245f, 0x0414575c, 0x04148a5a,
  0x0414bd58, 0x0414f057, 0x04152356, 0x04155657, 0x04158957, 0x0415bc59, 0x0415ef5b, 0x0416225d,
  0x04165561, 0x04168864, 0x0416bb69, 0x0416ee6e, 0x04172174, 0x0417547a, 0x04178781, 0x0417ba89,
  0x0417ed91, 0x0418209a, 0x041853a3, 0x041886ad, 0x0418b9b8, 0x0418ecc3, 0x04191fcf, 0x041952dc,
  0x041985e9, 0x0419b8f7, 0x0419ec05, 0x041a1f15, 0x041a5224, 0x041a8534, 0x041ab845, 0x041aeb57,
  0x041b1e69, 0x041b517c, 0x041b848f, 0x041bb7a3, 0x041beab8, 0x041c1dcd, 0x041c50e3, 0x041c83fa,
  0x041cb711, 0x041cea28, 0x041d1d41, 0x041d505a, 0x041d8373, 0x041db68e, 0x041de9a8, 0x041e1cc4,
  0x041e4fe0, 0x041e82fd, 0x041eb61a, 0x041ee938, 0x041f1c57, 0x041f4f76, 0x041f8296, 0x041fb5b6,
  0x041fe8d7, 0x04201bf9, 0x04204f1b, 0x0420823e, 0x0420b561, 0x0420e885, 0x04211baa, 0x04214ed0,
  0x042181f6, 0x0421b51c, 0x0421e843, 0x04221b6b, 0x04224e94, 0x042281bd, 0x0422b4e6, 0x0422e811,
  0x04231b3c, 0x04234e67, 0x04238193, 0x0423b4c0, 0x0423e7ee, 0x04241b1c, 0x04244e4a, 0x04248179,
  0x0424b4a9, 0x0424e7da, 0x04251b0b, 0x04254e3d, 0x0425816f, 0x0425b4a2, 0x0425e7d6, 0x04261b0a,
  0x04264e3f, 0x04268174, 0x0426b4aa, 0x0426e7e1, 0x04271b18, 0x04274e50, 0x04278188, 0x0427b4c2,
  0x0427e7fb, 0x04281b36, 0x04284e71, 0x042881ac, 0x0428b4e8, 0x0428e825, 0x04291b63, 0x04294ea1,
  0x042981df, 0x0429b51f, 0x0429e85f, 0x042a1b9f, 0x042a4ee0, 0x042a8222, 0x042ab564, 0x042ae8a7,
  0x042b1beb, 0x042b4f2f, 0x042b8274, 0x042bb5ba, 0x042be900, 0x042c1c46, 0x042c4f8e, 0x042c82d6,
  0x042cb61e, 0x042ce967, 0x042d1cb1, 0x042d4ffb, 0x042d8346, 0x042db692, 0x042de9de, 0x042e1d2b,
  0x042e5078, 0x042e83c6, 0x042eb715, 0x042eea64, 0x042f1db4, 0x042f5105, 0x042f8456, 0x042fb7a8,
  0x042feafa, 0x04301e4d, 0x043051a1, 0x043084f5, 0x0430b84a, 0x0430eb9f, 0x04311ef5, 0x0431524c,
  0x043185a3, 0x0431b8fb, 0x0431ec54, 0x04321fad, 0x04325306, 0x04328661, 0x0432b9bc, 0x0432ed17,
  0x04332074, 0x043353d0, 0x0433872e, 0x0433ba8c, 0x0433edea, 0x0434214a, 0x043454aa, 0x0434880a,
  0x0434bb6b, 0x0434eecd, 0x0435222f, 0x04355592, 0x043588f6, 0x0435bc5a, 0x0435efbf, 0x04362324,
  0x0436568a, 0x043689f1, 0x0436bd58, 0x0436f0c0, 0x04372428, 0x04375791, 0x04378afb, 0x0437be65,
  0x0437f1d0, 0x0438253c, 0x043858a8, 0x04388c14, 0x0438bf82, 0x0438f2f0, 0x0439265e, 0x043959cd,
  0x04398d3d, 0x0439c0ae, 0x0439f41f, 0x043a2790, 0x043a5b02, 0x043a8e75, 0x043ac1e9, 0x043af55d,
  0x043b28d2, 0x043b5c47, 0x043b8fbd, 0x043bc333, 0x043bf6aa, 0x043c2a22, 0x043c5d9a, 0x043c9113,
  0x043cc48d, 0x043cf807, 0x043d2b82, 0x043d5efd, 0x043d9279, 0x043dc5f6, 0x043df973, 0x043e2cf1,
  0x043e6070, 0x043e93ef, 0x043ec76e, 0x043efaef, 0x043f2e6f, 0x043f61f1, 0x043f9573, 0x043fc8f6,
  0x043ffc79, 0x04402ffd, 0x04406382, 0x04409707, 0x0440ca8d, 0x0440fe13, 0x0441319a, 0x04416522,
  0x044198aa, 0x0441cc33, 0x0441ffbc, 0x04423346, 0x044266d1, 0x04429a5c, 0x0442cde8, 0x04430174,
  0x04433501, 0x0443688f, 0x04439c1d, 0x0443cfac, 0x0444033c, 0x044436cc, 0x04446a5d, 0x04449dee,
  0x0444d180, 0x04450513, 0x044538a6, 0x04456c39, 0x04459fce, 0x0445d363, 0x044606f8, 0x04463a8f,
  0x04466e25, 0x0446a1bd, 0x0446d555, 0x044708ee, 0x04473c87, 0x04477021, 0x0447a3bb, 0x0447d756,
  0x04480af2, 0x04483e8e, 0x0448722b, 0x0448a5c9, 0x0448d967, 0x04490d05, 0x044940a5, 0x04497445,
  0x0449a7e5, 0x0449db86, 0x044a0f28, 0x044a42ca, 0x044a766d, 0x044aaa11, 0x044addb5, 0x044b115a,
  0x044b44ff, 0x044b78a5, 0x044bac4c, 0x044bdff3, 0x044c139b, 0x044c4743, 0x044c7aec, 0x044cae96,
  0x044ce240, 0x044d15eb, 0x044d4997, 0x044d7d43, 0x044db0ef, 0x044de49d, 0x044e184b, 0x044e4bf9,
  0x044e7fa8, 0x044eb358, 0x044ee708, 0x044f1ab9, 0x044f4e6b, 0x044f821d, 0x044fb5cf, 0x044fe983,
  0x04501d37, 0x045050eb, 0x045084a0, 0x0450b856, 0x0450ec0d, 0x04511fc4, 0x0451537b, 0x04518733,
  0x0451baec, 0x0451eea5, 0x0452225f, 0x0452561a, 0x045289d5, 0x0452bd91, 0x0452f14d, 0x0453250a,
  0x045358c8, 0x04538c86, 0x0453c045, 0x0453f405, 0x045427c5, 0x04545b85, 0x04548f46, 0x0454c308,
  0x0454f6cb, 0x04552a8e, 0x04555e51, 0x04559216, 0x0455c5db, 0x0455f9a0, 0x04562d66, 0x0456612d,
  0x045694f4, 0x0456c8bc, 0x0456fc84, 0x0457304e, 0x04576417, 0x045797e2, 0x0457cbac, 0x0457ff78,
  0x04583344, 0x04586711, 0x04589ade, 0x0458ceac, 0x0459027b, 0x0459364a, 0x04596a19, 0x04599dea,
  0x0459d1bb, 0x045a058c, 0x045a395e, 0x045a6d31, 0x045aa104, 0x045ad4d8, 0x045b08ad, 0x045b3c82,
  0x045b7058, 0x045ba42e, 0x045bd805, 0x045c0bdd, 0x045c3fb5, 0x045c738e, 0x045ca767, 0x045cdb41,
  0x045d0f1b, 0x045d42f7, 0x045d76d2, 0x045daaaf, 0x045dde8c, 0x045e1269, 0x045e4647, 0x045e7a26,
  0x045eae06, 0x045ee1e6, 0x045f15c6, 0x045f49a7, 0x045f7d89, 0x045fb16c, 0x045fe54f, 0x04601932,
  0x04604d16, 0x046080fb, 0x0460b4e1, 0x0460e8c7, 0x04611cad, 0x04615094, 0x0461847c, 0x0461b864,
  0x0461ec4d, 0x04622037, 0x04625421, 0x0462880c, 0x0462bbf7, 0x0462efe3, 0x046323d0, 0x046357bd,
  0x04638bab, 0x0463bf99, 0x0463f388, 0x04642778, 0x04645b68, 0x04648f59, 0x0464c34a, 0x0464f73c,
  0x04652b2f, 0x04655f22, 0x04659316, 0x0465c70a, 0x0465faff, 0x04662ef5, 0x046662eb, 0x046696e2]

def rqMantissas19B : List ℕ := [
  0x0466cad9, 0x0466fed1, 0x046732ca, 0x046766c3, 0x04679abd, 0x0467ceb7, 0x046802b2, 0x046836ae,
  0x04686aaa, 0x04689ea7, 0x0468d2a4, 0x046906a2, 0x04693aa1, 0x04696ea0, 0x0469a2a0, 0x0469d6a0,
  0x046a0aa1, 0x046a3ea3, 0x046a72a5, 0x046aa6a8, 0x046adaab, 0x046b0eaf, 0x046b42b3, 0x046b76b9,
  0x046baabe, 0x046bdec5, 0x046c12cc, 0x046c46d3, 0x046c7adb, 0x046caee4, 0x046ce2ee, 0x046d16f7,
  0x046d4b02, 0x046d7f0d, 0x046db319, 0x046de725, 0x046e1b32, 0x046e4f40, 0x046e834e, 0x046eb75c,
  0x046eeb6c, 0x046f1f7c, 0x046f538c, 0x046f879d, 0x046fbbaf, 0x046fefc1, 0x047023d4, 0x047057e8,
  0x04708bfc, 0x0470c011, 0x0470f426, 0x0471283c, 0x04715c52, 0x04719069, 0x0471c481, 0x0471f899,
  0x04722cb2, 0x047260cc, 0x047294e6, 0x0472c900, 0x0472fd1b, 0x04733137, 0x04736554, 0x04739971,
  0x0473cd8e, 0x047401ad, 0x047435cb, 0x047469eb, 0x04749e0b, 0x0474d22c, 0x0475064d, 0x04753a6f,
  0x04756e91, 0x0475a2b4, 0x0475d6d7, 0x04760afc, 0x04763f20, 0x04767346, 0x0476a76c, 0x0476db92,
  0x04770fba, 0x047743e1, 0x0477780a, 0x0477ac33, 0x0477e05c, 0x04781486, 0x047848b1, 0x04787cdc,
  0x0478b108, 0x0478e535, 0x04791962, 0x04794d8f, 0x047981be, 0x0479b5ed, 0x0479ea1c, 0x047a1e4c,
  0x047a527d, 0x047a86ae, 0x047abae0, 0x047aef12, 0x047b2346, 0x047b5779, 0x047b8bad, 0x047bbfe2,
  0x047bf418, 0x047c284e, 0x047c5c84, 0x047c90bb, 0x047cc4f3, 0x047cf92c, 0x047d2d65, 0x047d619e,
  0x047d95d8, 0x047dca13, 0x047dfe4e, 0x047e328a, 0x047e66c7, 0x047e9b04, 0x047ecf42, 0x047f0380,
  0x047f37bf, 0x047f6bff, 0x047fa03f, 0x047fd47f, 0x048008c1, 0x04803d02, 0x04807145, 0x0480a588,
  0x0480d9cc, 0x04810e10, 0x04814255, 0x0481769a, 0x0481aae0, 0x0481df27, 0x0482136e, 0x048247b6,
  0x04827bfe, 0x0482b047, 0x0482e491, 0x048318db, 0x04834d26, 0x04838171, 0x0483b5bd, 0x0483ea0a,
  0x04841e57, 0x048452a4, 0x048486f3, 0x0484bb42, 0x0484ef91, 0x048523e1, 0x04855832, 0x04858c83,
  0x0485c0d5, 0x0485f527, 0x0486297a, 0x04865dce, 0x04869222, 0x0486c677, 0x0486facc, 0x04872f22,
  0x04876379, 0x048797d0, 0x0487cc28, 0x04880080, 0x048834d9, 0x04886933, 0x04889d8d, 0x0488d1e8,
  0x04890643, 0x04893a9f, 0x04896efb, 0x0489a358, 0x0489d7b6, 0x048a0c14, 0x048a4073, 0x048a74d3,
  0x048aa933, 0x048add93, 0x048b11f5, 0x048b4656, 0x048b7ab9, 0x048baf1c, 0x048be37f, 0x048c17e3,
  0x048c4c48, 0x048c80ad, 0x048cb513, 0x048ce97a, 0x048d1de1, 0x048d5249, 0x048d86b1, 0x048dbb1a,
  0x048def83, 0x048e23ed, 0x048e5858, 0x048e8cc3, 0x048ec12f, 0x048ef59b, 0x048f2a08, 0x048f5e76,
  0x048f92e4, 0x048fc753, 0x048ffbc2, 0x04903032, 0x049064a3, 0x04909914, 0x0490cd86, 0x049101f8,
  0x0491366b, 0x04916ade, 0x04919f52, 0x0491d3c7, 0x0492083c, 0x04923cb2, 0x04927128, 0x0492a59f,
  0x0492da17, 0x04930e8f, 0x04934308, 0x04937781, 0x0493abfb, 0x0493e076, 0x049414f1, 0x0494496c,
  0x04947de9, 0x0494b266, 0x0494e6e3, 0x04951b61, 0x04954fe0, 0x0495845f, 0x0495b8df, 0x0495ed5f,
  0x049621e0, 0x04965662, 0x04968ae4, 0x0496bf67, 0x0496f3ea, 0x0497286e, 0x04975cf2, 0x04979177,
  0x0497c5fd, 0x0497fa83, 0x04982f0a, 0x04986392, 0x0498981a, 0x0498cca2, 0x0499012c, 0x049935b5,
  0x04996a40, 0x04999ecb, 0x0499d356, 0x049a07e2, 0x049a3c6f, 0x049a70fc, 0x049aa58a, 0x049ada19,
  0x049b0ea8, 0x049b4337, 0x049b77c8, 0x049bac58, 0x049be0ea, 0x049c157c, 0x049c4a0e, 0x049c7ea1,
  0x049cb335, 0x049ce7ca, 0x049d1c5e, 0x049d50f4, 0x049d858a, 0x049dba21, 0x049deeb8, 0x049e2350,
  0x049e57e8, 0x049e8c81, 0x049ec11b, 0x049ef5b5, 0x049f2a50, 0x049f5eeb, 0x049f9387, 0x049fc824,
  0x049ffcc1, 0x04a0315e, 0x04a065fd, 0x04a09a9b, 0x04a0cf3b, 0x04a103db, 0x04a1387b, 0x04a16d1d,
  0x04a1a1be, 0x04a1d661, 0x04a20b04, 0x04a23fa7, 0x04a2744b, 0x04a2a8f0, 0x04a2dd95, 0x04a3123b,
  0x04a346e2, 0x04a37b89, 0x04a3b030, 0x04a3e4d8, 0x04a41981, 0x04a44e2b, 0x04a482d5, 0x04a4b77f,
  0x04a4ec2a, 0x04a520d6, 0x04a55582, 0x04a58a2f, 0x04a5bedd, 0x04a5f38b, 0x04a62839, 0x04a65ce8,
  0x04a69198, 0x04a6c648, 0x04a6faf9, 0x04a72fab, 0x04a7645d, 0x04a79910, 0x04a7cdc3, 0x04a80277,
  0x04a8372b, 0x04a86be0, 0x04a8a096, 0x04a8d54c, 0x04a90a03, 0x04a93eba, 0x04a97372, 0x04a9a82b,
  0x04a9dce4, 0x04aa119d, 0x04aa4658, 0x04aa7b13, 0x04aaafce, 0x04aae48a, 0x04ab1947, 0x04ab4e04,
  0x04ab82c2, 0x04abb780, 0x04abec3f, 0x04ac20fe, 0x04ac55be, 0x04ac8a7f, 0x04acbf40, 0x04acf402,
  0x04ad28c5, 0x04ad5d88, 0x04ad924b, 0x04adc70f, 0x04adfbd4, 0x04ae3099, 0x04ae655f, 0x04ae9a26,
  0x04aeceed, 0x04af03b4, 0x04af387d, 0x04af6d45, 0x04afa20f, 0x04afd6d9, 0x04b00ba3, 0x04b0406e,
  0x04b0753a, 0x04b0aa06, 0x04b0ded3, 0x04b113a1, 0x04b1486f, 0x04b17d3d, 0x04b1b20c, 0x04b1e6dc,
  0x04b21bad, 0x04b2507d, 0x04b2854f, 0x04b2ba21, 0x04b2eef4, 0x04b323c7, 0x04b3589b, 0x04b38d6f,
  0x04b3c244, 0x04b3f71a, 0x04b42bf0, 0x04b460c7, 0x04b4959e, 0x04b4ca76, 0x04b4ff4e, 0x04b53427,
  0x04b56901, 0x04b59ddb, 0x04b5d2b6, 0x04b60791, 0x04b63c6d, 0x04b6714a, 0x04b6a627, 0x04b6db05,
  0x04b70fe3, 0x04b744c2, 0x04b779a1, 0x04b7ae81, 0x04b7e362, 0x04b81843, 0x04b84d24, 0x04b88207,
  0x04b8b6ea, 0x04b8ebcd, 0x04b920b1, 0x04b95596, 0x04b98a7b, 0x04b9bf61, 0x04b9f447, 0x04ba292e,
  0x04ba5e16, 0x04ba92fe, 0x04bac7e6, 0x04bafcd0, 0x04bb31b9, 0x04bb66a4, 0x04bb9b8f, 0x04bbd07a,
  0x04bc0566, 0x04bc3a53, 0x04bc6f40, 0x04bca42e, 0x04bcd91d, 0x04bd0e0c, 0x04bd42fb, 0x04bd77ec,
  0x04bdacdc, 0x04bde1ce, 0x04be16c0, 0x04be4bb2, 0x04be80a5, 0x04beb599, 0x04beea8d, 0x04bf1f82,
  0x04bf5477, 0x04bf896d, 0x04bfbe64, 0x04bff35b, 0x04c02852, 0x04c05d4b, 0x04c09243, 0x04c0c73d,
  0x04c0fc37, 0x04c13131, 0x04c1662d, 0x04c19b28, 0x04c1d025, 0x04c20521, 0x04c23a1f, 0x04c26f1d,
  0x04c2a41b, 0x04c2d91b, 0x04c30e1a, 0x04c3431b, 0x04c3781c, 0x04c3ad1d, 0x04c3e21f, 0x04c41722,
  0x04c44c25, 0x04c48129, 0x04c4b62d, 0x04c4eb32, 0x04c52038, 0x04c5553e, 0x04c58a44, 0x04c5bf4c,
  0x04c5f453, 0x04c6295c, 0x04c65e65, 0x04c6936e, 0x04c6c878, 0x04c6fd83, 0x04c7328e, 0x04c7679a,
  0x04c79ca7, 0x04c7d1b4, 0x04c806c1, 0x04c83bcf, 0x04c870de, 0x04c8a5ed, 0x04c8dafd, 0x04c9100d,
  0x04c9451e, 0x04c97a30, 0x04c9af42, 0x04c9e455, 0x04ca1968, 0x04ca4e7c, 0x04ca8391, 0x04cab8a6,
  0x04caedbb, 0x04cb22d1, 0x04cb57e8, 0x04cb8d00, 0x04cbc217, 0x04cbf730, 0x04cc2c49, 0x04cc6163,
  0x04cc967d, 0x04cccb98, 0x04cd00b3, 0x04cd35cf, 0x04cd6aeb, 0x04cda008, 0x04cdd526, 0x04ce0a44,
  0x04ce3f63, 0x04ce7482, 0x04cea9a2, 0x04cedec3, 0x04cf13e4, 0x04cf4906, 0x04cf7e28, 0x04cfb34b]

def rqMantissas19C : List ℕ := [
  0x04cfe86e, 0x04d01d92, 0x04d052b6, 0x04d087db, 0x04d0bd01, 0x04d0f227, 0x04d1274e, 0x04d15c76,
  0x04d1919e, 0x04d1c6c6, 0x04d1fbef, 0x04d23119, 0x04d26643, 0x04d29b6e, 0x04d2d099, 0x04d305c5,
  0x04d33af2, 0x04d3701f, 0x04d3a54d, 0x04d3da7b, 0x04d40faa, 0x04d444d9, 0x04d47a09, 0x04d4af3a,
  0x04d4e46b, 0x04d5199c, 0x04d54ecf, 0x04d58401, 0x04d5b935, 0x04d5ee69, 0x04d6239d, 0x04d658d2,
  0x04d68e08, 0x04d6c33e, 0x04d6f875, 0x04d72dad, 0x04d762e5, 0x04d7981d, 0x04d7cd56, 0x04d80290,
  0x04d837ca, 0x04d86d05, 0x04d8a240, 0x04d8d77c, 0x04d90cb9, 0x04d941f6, 0x04d97734, 0x04d9ac72,
  0x04d9e1b1, 0x04da16f0, 0x04da4c30, 0x04da8171, 0x04dab6b2, 0x04daebf4, 0x04db2136, 0x04db5679,
  0x04db8bbc, 0x04dbc100, 0x04dbf644, 0x04dc2b8a, 0x04dc60cf, 0x04dc9616, 0x04dccb5c, 0x04dd00a4,
  0x04dd35ec, 0x04dd6b34, 0x04dda07d, 0x04ddd5c7, 0x04de0b11, 0x04de405c, 0x04de75a7, 0x04deaaf3,
  0x04dee040, 0x04df158d, 0x04df4adb, 0x04df8029, 0x04dfb578, 0x04dfeac7, 0x04e02017, 0x04e05567,
  0x04e08ab8, 0x04e0c00a, 0x04e0f55c, 0x04e12aaf, 0x04e16002, 0x04e19556, 0x04e1caab, 0x04e20000,
  0x04e23555, 0x04e26aac, 0x04e2a002, 0x04e2d55a, 0x04e30ab2, 0x04e3400a, 0x04e37563, 0x04e3aabd,
  0x04e3e017, 0x04e41572, 0x04e44acd, 0x04e48029, 0x04e4b585, 0x04e4eae2, 0x04e52040, 0x04e5559e,
  0x04e58afd, 0x04e5c05c, 0x04e5f5bc, 0x04e62b1c, 0x04e6607d, 0x04e695df, 0x04e6cb41, 0x04e700a3,
  0x04e73607, 0x04e76b6b, 0x04e7a0cf, 0x04e7d634, 0x04e80b99, 0x04e84100, 0x04e87666, 0x04e8abcd,
  0x04e8e135, 0x04e9169e, 0x04e94c07, 0x04e98170, 0x04e9b6da, 0x04e9ec45, 0x04ea21b0, 0x04ea571c,
  0x04ea8c88, 0x04eac1f5, 0x04eaf762, 0x04eb2cd0, 0x04eb623f, 0x04eb97ae, 0x04ebcd1e, 0x04ec028e,
  0x04ec37ff, 0x04ec6d71, 0x04eca2e3, 0x04ecd855, 0x04ed0dc8, 0x04ed433c, 0x04ed78b0, 0x04edae25,
  0x04ede39a, 0x04ee1910, 0x04ee4e87, 0x04ee83fe, 0x04eeb976, 0x04eeeeee, 0x04ef2467, 0x04ef59e0,
  0x04ef8f5a, 0x04efc4d5, 0x04effa50, 0x04f02fcb, 0x04f06547, 0x04f09ac4, 0x04f0d041, 0x04f105bf,
  0x04f13b3e, 0x04f170bd, 0x04f1a63c, 0x04f1dbbd, 0x04f2113d, 0x04f246bf, 0x04f27c40, 0x04f2b1c3,
  0x04f2e746, 0x04f31cc9, 0x04f3524d, 0x04f387d2, 0x04f3bd57, 0x04f3f2dd, 0x04f42864, 0x04f45dea,
  0x04f49372, 0x04f4c8fa, 0x04f4fe83, 0x04f5340c, 0x04f56996, 0x04f59f20, 0x04f5d4ab, 0x04f60a36,
  0x04f63fc2, 0x04f6754f, 0x04f6aadc, 0x04f6e06a, 0x04f715f8, 0x04f74b87, 0x04f78116, 0x04f7b6a6,
  0x04f7ec37, 0x04f821c8, 0x04f85759, 0x04f88cec, 0x04f8c27e, 0x04f8f812, 0x04f92da6, 0x04f9633a,
  0x04f998cf, 0x04f9ce65, 0x04fa03fb, 0x04fa3992, 0x04fa6f29, 0x04faa4c1, 0x04fada59, 0x04fb0ff2,
  0x04fb458c, 0x04fb7b26, 0x04fbb0c1, 0x04fbe65c, 0x04fc1bf8, 0x04fc5194, 0x04fc8731, 0x04fcbcce,
  0x04fcf26c, 0x04fd280b, 0x04fd5daa, 0x04fd934a, 0x04fdc8ea, 0x04fdfe8b, 0x04fe342c, 0x04fe69ce,
  0x04fe9f71, 0x04fed514, 0x04ff0ab8, 0x04ff405c, 0x04ff7601, 0x04ffaba6, 0x04ffe14c, 0x050016f3,
  0x05004c9a, 0x05008241, 0x0500b7e9, 0x0500ed92, 0x0501233b, 0x050158e5, 0x05018e90, 0x0501c43b,
  0x0501f9e6, 0x05022f92, 0x0502653f, 0x05029aec, 0x0502d09a, 0x05030648, 0x05033bf7, 0x050371a7,
  0x0503a757, 0x0503dd07, 0x050412b9, 0x0504486a, 0x05047e1d, 0x0504b3cf, 0x0504e983, 0x05051f37,
  0x050554eb, 0x05058aa0, 0x0505c056, 0x0505f60c, 0x05062bc3, 0x0506617a, 0x05069732, 0x0506cceb,
  0x050702a4, 0x0507385d, 0x05076e17, 0x0507a3d2, 0x0507d98d, 0x05080f49, 0x05084506, 0x05087ac2,
  0x0508b080, 0x0508e63e, 0x05091bfd, 0x050951bc, 0x0509877c, 0x0509bd3c, 0x0509f2fd, 0x050a28be,
  0x050a5e80, 0x050a9443, 0x050aca06, 0x050affc9, 0x050b358e, 0x050b6b52, 0x050ba118, 0x050bd6de,
  0x050c0ca4, 0x050c426b, 0x050c7833, 0x050cadfb, 0x050ce3c4, 0x050d198d]

/-- `struct fixedfloat` -/
structure FixedFloat where
  mantissa : ℕ
  exponent : ℕ
  deriving DecidableEq, Repr

/-- The mantissas with their exponent. -/
def rqRows : List (ℕ × List ℕ) := [
  (0, rqMantissas0), (2, rqMantissas2), (3, rqMantissas3), (4, rqMantissas4), (5, rqMantissas5),
  (6, rqMantissas6), (7, rqMantissas7), (8, rqMantissas8), (9, rqMantissas9), (10, rqMantissas10),
  (11, rqMantissas11), (12, rqMantissas12), (13, rqMantissas13), (14, rqMantissas14),
  (15, rqMantissas15A), (15, rqMantissas15B), (16, rqMantissas16A), (16, rqMantissas16B),
  (17, rqMantissas17A), (17, rqMantissas17B), (17, rqMantissas17C), (17, rqMantissas17D),
  (18, rqMantissas18A), (18, rqMantissas18B), (18, rqMantissas18C), (18, rqMantissas18D),
  (18, rqMantissas18E), (18, rqMantissas18F), (19, rqMantissas19A), (19, rqMantissas19B),
  (19, rqMantissas19C)]

def rqRow (row : ℕ × List ℕ) : List FixedFloat := row.2.map fun mantissa => ⟨mantissa, row.1⟩

/-- `rq_table` -/
def rqTable : List FixedFloat := (rqRows.map rqRow).flatten

theorem rqTable_length : rqTable.length = 8207 := by
  rw [rqTable, List.length_flatten]
  decide +kernel

/-! ### The numbers ascend -/

/-- The number in units of the last bit. -/
def FixedFloat.scaled (power : FixedFloat) : ℕ := power.mantissa * 2 ^ power.exponent

/-- A smaller number, with an exponent that is no larger. -/
def FixedFloat.Below (power power' : FixedFloat) : Prop :=
  power.scaled < power'.scaled ∧ power.exponent ≤ power'.exponent

instance (power power' : FixedFloat) : Decidable (power.Below power') :=
  inferInstanceAs (Decidable (_ ∧ _))

instance : Trans FixedFloat.Below FixedFloat.Below FixedFloat.Below where
  trans h h' := ⟨Nat.lt_trans h.1 h'.1, Nat.le_trans h.2 h'.2⟩

theorem rqTable_ascending : rqTable.Pairwise FixedFloat.Below := by
  apply List.IsChain.pairwise
  rw [rqTable, List.isChain_flatten (by decide +kernel)]
  exact ⟨by decide +kernel, by decide +kernel⟩

/-- All numbers but the first are normalized. -/
theorem rqTable_normalized : ∀ power ∈ rqTable.tail,
    2 ^ 26 ≤ power.mantissa ∧ power.mantissa < 2 ^ 27 := by
  have hrows : ∀ row ∈ rqRows.tail, ∀ mantissa ∈ row.2, 2 ^ 26 ≤ mantissa ∧ mantissa < 2 ^ 27 := by
    decide +kernel
  intro power hpower
  have htail : rqTable.tail = (rqRows.tail.map rqRow).flatten := rfl
  rw [htail] at hpower
  obtain ⟨row, hrow, hmem⟩ := List.exists_of_mem_flatMap (List.flatMap_def ▸ hpower)
  obtain ⟨mantissa, hmantissa, rfl⟩ := List.mem_map.mp hmem
  exact hrows row hrow mantissa hmantissa

end Mp3Decoder
