/-!
# The texts of the bundled cartridges

Each bundled cartridge is also there as text, the way its author wrote it. The console shows the
texts; it plays the games natively.
-/

namespace Handheld.Guest.Bundled

/-- A text of lines, the last of which is closed too. -/
def textOf (lines : List String) : String :=
  "\n".intercalate lines ++ "\n"

def breakoutText : String :=
  textOf
    [ "// Breakout with a tile wall. Bricks are tiles, so they stay put until the ball clears them.",
      "",
      "function metadata() \x7b",
      "  return \x7b",
      "    title: \"Breakout\",",
      "    description: \"Clear the wall without dropping the ball. Three lives.\",",
      "    controls: [",
      "      \x7b key: \"left / right\", action: \"move paddle\" \x7d,",
      "      \x7b key: \"a\", action: \"launch ball\" \x7d",
      "    ]",
      "  \x7d;",
      "\x7d",
      "",
      "function resources() \x7b",
      "  return \x7b",
      "    sprites: \x7b",
      "      paddle: [",
      "        [0x00, 0xFF, 0xFF, 0xFF, 0xFF, 0x00, 0x00, 0x00],",
      "        [0x00, 0x00, 0x7E, 0x7E, 0x00, 0x00, 0x00, 0x00]",
      "      ],",
      "      ball: [[0x00, 0x00, 0x18, 0x3C, 0x3C, 0x18, 0x00, 0x00]]",
      "    \x7d,",
      "    tiles: \x7b",
      "      red: [\"66666666\", \"6cccccc6\", \"6cccccc6\", \"66666666\", \"00000000\", \"00000000\", \"00000000\", \"00000000\"],",
      "      yellow: [\"99999999\", \"9bbbbbb9\", \"9bbbbbb9\", \"99999999\", \"00000000\", \"00000000\", \"00000000\", \"00000000\"],",
      "      wall: [[0xFF, 0xFF, 0xFF, 0xFF, 0xFF, 0xFF, 0xFF, 0xFF]]",
      "    \x7d,",
      "    initialState: \x7b",
      "      tiles: [",
      "        \x7b x: 0, y: 0, tileId: 4 \x7d,",
      "        \x7b x: 31, y: 0, tileId: 4 \x7d",
      "      ],",
      "      background: 14",
      "    \x7d",
      "  \x7d;",
      "\x7d",
      "",
      "const PADDLE = 0;",
      "const BALL = 1;",
      "const RED = 2;",
      "const YELLOW = 3;",
      "const ROWS = 4;",
      "",
      "let game;",
      "",
      "function freshWall(tiles) \x7b",
      "  for (let y = 4; y < 4 + ROWS; y++) \x7b",
      "    for (let x = 2; x < 30; x++) \x7b",
      "      game.bricks[y * 32 + x] = true;",
      "      tiles.push(\x7b x: x, y: y, tileId: y % 2 === 0 ? RED : YELLOW \x7d);",
      "    \x7d",
      "  \x7d",
      "\x7d",
      "",
      "function update(deltaTime, input) \x7b",
      "  const tiles = [];",
      "  if (!game) \x7b",
      "    game = \x7b paddle: 112, ball: null, bricks: \x7b\x7d, score: 0, lives: 3, left: ROWS * 28 \x7d;",
      "    freshWall(tiles);",
      "  \x7d",
      "",
      "  if (input.left) game.paddle -= 160 * deltaTime;",
      "  if (input.right) game.paddle += 160 * deltaTime;",
      "  game.paddle = Math.max(0, Math.min(224, game.paddle));",
      "",
      "  if (!game.ball && input.aPressed) \x7b",
      "    game.ball = \x7b x: game.paddle + 12, y: 224, dx: 90, dy: -120 \x7d;",
      "  \x7d",
      "",
      "  const ball = game.ball;",
      "  if (ball) \x7b",
      "    ball.x += ball.dx * deltaTime;",
      "    ball.y += ball.dy * deltaTime;",
      "    if (ball.x < 0 || ball.x > 248) ball.dx = -ball.dx;",
      "    if (ball.y < 0) ball.dy = -ball.dy;",
      "",
      "    const cx = Math.floor((ball.x + 4) / 8);",
      "    const cy = Math.floor((ball.y + 4) / 8);",
      "    const key = cy * 32 + cx;",
      "    if (game.bricks[key]) \x7b",
      "      delete game.bricks[key];",
      "      tiles.push(\x7b x: cx, y: cy, tileId: -1 \x7d);",
      "      ball.dy = -ball.dy;",
      "      game.score += 10;",
      "      game.left -= 1;",
      "    \x7d",
      "",
      "    if (ball.dy > 0 && ball.y >= 228 && ball.y <= 236 && ball.x + 8 >= game.paddle && ball.x <= game.paddle + 32) \x7b",
      "      ball.dy = -Math.abs(ball.dy);",
      "    \x7d",
      "    if (ball.y > 256) \x7b",
      "      game.ball = null;",
      "      game.lives -= 1;",
      "    \x7d",
      "  \x7d",
      "",
      "  const sprites = [];",
      "  for (let i = 0; i < 4; i++) \x7b",
      "    sprites.push(\x7b spriteId: PADDLE, x: game.paddle + i * 8, y: 236 \x7d);",
      "  \x7d",
      "  if (game.ball) \x7b",
      "    sprites.push(\x7b spriteId: BALL, x: game.ball.x, y: game.ball.y \x7d);",
      "  \x7d",
      "",
      "  return \x7b",
      "    sprites: sprites,",
      "    tiles: tiles,",
      "    score: game.score,",
      "    gameOver: game.lives <= 0 || game.left <= 0",
      "  \x7d;",
      "\x7d" ]

def pongText : String :=
  textOf
    [ "// Pong against a computer paddle. First side to 5 points ends the game.",
      "",
      "function metadata() \x7b",
      "  return \x7b",
      "    title: \"Pong\",",
      "    description: \"Keep the ball in play. First to 5 points wins.\",",
      "    controls: [",
      "      \x7b key: \"up / down\", action: \"move paddle\" \x7d,",
      "      \x7b key: \"start\", action: \"serve\" \x7d",
      "    ]",
      "  \x7d;",
      "\x7d",
      "",
      "function resources() \x7b",
      "  return \x7b",
      "    sprites: [",
      "      // 0: paddle segment",
      "      [[0x3C, 0x3C, 0x3C, 0x3C, 0x3C, 0x3C, 0x3C, 0x3C]],",
      "      // 1: ball",
      "      [[0x00, 0x3C, 0x7E, 0x7E, 0x7E, 0x7E, 0x3C, 0x00]],",
      "      // 2: net",
      "      [[0x18, 0x18, 0x00, 0x00, 0x18, 0x18, 0x00, 0x00]]",
      "    ],",
      "    palette: [0x000000, 0xFFFFFF, 0x404040]",
      "  \x7d;",
      "\x7d",
      "",
      "const WIDTH = 256;",
      "const HEIGHT = 256;",
      "const PADDLE_HEIGHT = 32;",
      "const SPEED = 150;",
      "",
      "let state;",
      "",
      "function serve(direction) \x7b",
      "  state.ball = \x7b x: WIDTH / 2 - 4, y: HEIGHT / 2 - 4, dx: 110 * direction, dy: 70 \x7d;",
      "  state.waiting = false;",
      "\x7d",
      "",
      "function update(deltaTime, input) \x7b",
      "  if (!state) \x7b",
      "    state = \x7b player: 112, cpu: 112, playerScore: 0, cpuScore: 0, waiting: true, ball: null, over: false \x7d;",
      "  \x7d",
      "",
      "  if (input.up) state.player -= SPEED * deltaTime;",
      "  if (input.down) state.player += SPEED * deltaTime;",
      "  state.player = Math.max(0, Math.min(HEIGHT - PADDLE_HEIGHT, state.player));",
      "",
      "  if (state.waiting) \x7b",
      "    if (input.startPressed || input.aPressed) serve(1);",
      "  \x7d else \x7b",
      "    const ball = state.ball;",
      "    ball.x += ball.dx * deltaTime;",
      "    ball.y += ball.dy * deltaTime;",
      "",
      "    if (ball.y < 0 || ball.y > HEIGHT - 8) \x7b",
      "      ball.dy = -ball.dy;",
      "      ball.y = Math.max(0, Math.min(HEIGHT - 8, ball.y));",
      "    \x7d",
      "",
      "    const target = ball.y - PADDLE_HEIGHT / 2;",
      "    state.cpu += Math.sign(target - state.cpu) * Math.min(Math.abs(target - state.cpu), SPEED * 0.8 * deltaTime);",
      "",
      "    if (ball.dx < 0 && ball.x <= 16 && ball.y + 8 >= state.player && ball.y <= state.player + PADDLE_HEIGHT) \x7b",
      "      ball.dx = -ball.dx * 1.05;",
      "    \x7d",
      "    if (ball.dx > 0 && ball.x >= WIDTH - 24 && ball.y + 8 >= state.cpu && ball.y <= state.cpu + PADDLE_HEIGHT) \x7b",
      "      ball.dx = -ball.dx * 1.05;",
      "    \x7d",
      "",
      "    if (ball.x < -8) \x7b",
      "      state.cpuScore += 1;",
      "      state.waiting = true;",
      "    \x7d else if (ball.x > WIDTH) \x7b",
      "      state.playerScore += 1;",
      "      serve(-1);",
      "    \x7d",
      "    state.over = state.playerScore >= 5 || state.cpuScore >= 5;",
      "  \x7d",
      "",
      "  const sprites = [];",
      "  for (let i = 0; i < PADDLE_HEIGHT / 8; i++) \x7b",
      "    sprites.push(\x7b spriteId: 0, x: 8, y: state.player + i * 8 \x7d);",
      "    sprites.push(\x7b spriteId: 0, x: WIDTH - 16, y: state.cpu + i * 8 \x7d);",
      "  \x7d",
      "  if (!state.waiting && state.ball) \x7b",
      "    sprites.push(\x7b spriteId: 1, x: state.ball.x, y: state.ball.y \x7d);",
      "  \x7d",
      "",
      "  const tiles = [];",
      "  for (let y = 0; y < 32; y++) \x7b",
      "    tiles.push(\x7b x: 15, y: y, tileId: 2 \x7d);",
      "  \x7d",
      "",
      "  return \x7b",
      "    sprites: sprites,",
      "    tiles: tiles,",
      "    score: state.playerScore,",
      "    gameOver: state.over",
      "  \x7d;",
      "\x7d" ]

def movementText : String :=
  textOf
    [ "// Move a square around the screen. Useful for checking input wiring.",
      "",
      "function metadata() \x7b",
      "  return \x7b",
      "    title: \"Simple Movement\",",
      "    description: \"A square that follows the arrow keys. A changes its color.\",",
      "    controls: [",
      "      \x7b key: \"arrow keys\", action: \"move\" \x7d,",
      "      \x7b key: \"a\", action: \"cycle background\" \x7d",
      "    ]",
      "  \x7d;",
      "\x7d",
      "",
      "function resources() \x7b",
      "  return \x7b",
      "    sprites: [",
      "      [",
      "        \"11111111\",",
      "        \"1aaaaaa1\",",
      "        \"1a9999a1\",",
      "        \"1a9339a1\",",
      "        \"1a9339a1\",",
      "        \"1a9999a1\",",
      "        \"1aaaaaa1\",",
      "        \"11111111\"",
      "      ]",
      "    ]",
      "  \x7d;",
      "\x7d",
      "",
      "let player;",
      "let background = 0;",
      "",
      "function update(deltaTime, input) \x7b",
      "  if (!player) \x7b",
      "    player = \x7b x: 124, y: 124 \x7d;",
      "  \x7d",
      "",
      "  const step = 96 * deltaTime;",
      "  if (input.up) player.y -= step;",
      "  if (input.down) player.y += step;",
      "  if (input.left) player.x -= step;",
      "  if (input.right) player.x += step;",
      "  player.x = Math.max(0, Math.min(248, player.x));",
      "  player.y = Math.max(0, Math.min(248, player.y));",
      "",
      "  if (input.aPressed) \x7b",
      "    background = (background + 1) % 4;",
      "  \x7d",
      "",
      "  return \x7b",
      "    sprites: [\x7b spriteId: 0, x: player.x, y: player.y \x7d],",
      "    background: background",
      "  \x7d;",
      "\x7d" ]

end Handheld.Guest.Bundled
